import SentenceCards.Catalog.Reading
import SentenceCards.Challenge.Basic

/-!
# Challenges from a target sentence

The places and the required cards of a challenge follow from the sentence that it
asks for: one of each for every token of the sentence.
-/

namespace SentenceCards

/-- A letter without its macron, in lower case.  Other letters than ASCII stay as they are. -/
def foldLetter (c : Char) : Char :=
  if c = 'ā' ∨ c = 'Ā' then 'a'
  else if c = 'ē' ∨ c = 'Ē' then 'e'
  else if c = 'ī' ∨ c = 'Ī' then 'i'
  else if c = 'ō' ∨ c = 'Ō' then 'o'
  else if c = 'ū' ∨ c = 'Ū' then 'u'
  else c.toLower

/-- A word without macrons, in lower case. -/
def foldMacrons (word : String) : String := word.map foldLetter

/-- The place for a word: function words are given literally. -/
def Place.forWord (category : Category) (surface : String) : Place :=
  match category with
  | .particle | .article | .tenseMarker => .literal surface
  | _ => .word category

/-- The place for a token, and the id of the card that goes there.  An unknown word is
taken for the noun with the same letters. -/
def Token.requirement (catalog : Catalog) : Token → Place × String
  | .known card => (.forWord card.category card.surface, card.id)
  | .unknown word =>
      let id := "n_" ++ foldMacrons word
      match catalog.word? id with
      | some found => (.forWord found.category found.surface, id)
      | none => (.word .noun, id)

/-- The challenge to build the target sentence. -/
def Challenge.ofTarget (catalog : Catalog) (id : String) (pattern : Pattern) (target : Target) :
    Challenge :=
  let requirements := (catalog.read target.surface).map (Token.requirement catalog)
  { id := id
    pattern := pattern
    instruction := "Build: " ++ target.gloss
    target := some target
    places := requirements.map Prod.fst
    required := requirements.map Prod.snd
    hints := [] }

end SentenceCards
