import SentenceCards.Vocabulary.Word

/-!
# Cards

A card carries a word into play.  Some cards are decoys, and a card can stand in for
a word that the catalog lacks.
-/

namespace SentenceCards

/-- What sets a card apart from its word. -/
structure Marks where
  /-- Dealt beside the cards that are needed. -/
  decoy : Bool
  /-- Takes the place of an unknown word. -/
  standIn : Bool
  deriving DecidableEq, Inhabited

/-- A word in play. -/
structure Card where
  id : String
  surface : String
  gloss : String
  category : Category
  colour : Colour
  marks : Option Marks
  deriving DecidableEq, Inhabited

namespace Card

/-- The card of a word. -/
def ofWord (word : Word) : Card where
  id := word.id
  surface := word.surface
  gloss := word.gloss
  category := word.category
  colour := word.colour
  marks := none

/-- The card for an id that names no word. -/
def standingFor (id : String) : Card where
  id := id
  surface := "?" ++ id
  gloss := "unknown word"
  category := .noun
  colour := .gray
  marks := some ⟨false, true⟩

/-- The card as a decoy. -/
def asDecoy (card : Card) : Card :=
  { card with marks := some ⟨true, (card.marks.map Marks.standIn).getD false⟩ }

def isDecoy (card : Card) : Bool := (card.marks.map Marks.decoy).getD false

def isStandIn (card : Card) : Bool := (card.marks.map Marks.standIn).getD false

/-- Whether the card belongs to the category. -/
def isA (card : Card) (category : Category) : Bool := card.category == category

/-- Whether the card is written as one of the forms. -/
def reads (card : Card) (forms : List String) : Bool := forms.contains card.surface

end Card

/-- The surfaces of cards with one space between neighbours. -/
def sentence (cards : List Card) : String :=
  " ".intercalate (cards.map Card.surface)

end SentenceCards
