import SentenceCards.Catalog.Basic
import SentenceCards.Challenge.Basic
import SentenceCards.Dealing.Choice

/-!
# Dealing a hand

A hand holds the cards that a challenge requires and some decoys, in a drawn order.
-/

namespace SentenceCards.Dealing

variable {σ : Type} [Draws σ]

/-- The cards that a challenge requires. -/
def requiredCards (catalog : Catalog) (challenge : Challenge) : List Card :=
  challenge.required.map catalog.cardOrStandIn

/-- The words that can be decoys: not required, and of the category of a required word. -/
def decoyWords (catalog : Catalog) (challenge : Challenge) : List Word :=
  let categories :=
    ((requiredCards catalog challenge).filter (!·.isStandIn)).map Card.category
  catalog.words.filter fun word =>
    !challenge.required.contains word.id && categories.contains word.category

/-- Deals the required cards with up to `decoys` decoys, shuffled. -/
def deal (catalog : Catalog) (challenge : Challenge) (decoys : Nat) (source : σ) :
    List Card × σ :=
  let (words, source) := choose (decoyWords catalog challenge) decoys source
  let extra := words.map fun word => (Card.ofWord word).asDecoy
  shuffle (requiredCards catalog challenge ++ extra) source

/-- Deals with a new generator for the seed. -/
def dealSeeded (catalog : Catalog) (challenge : Challenge) (decoys : Nat) (seed : UInt64) :
    List Card :=
  (deal catalog challenge decoys (Generator.ofSeed seed)).1

end SentenceCards.Dealing
