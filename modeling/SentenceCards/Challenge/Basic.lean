import SentenceCards.Pattern
import SentenceCards.Text.Blank
import SentenceCards.Vocabulary.Category

/-!
# Challenges

A challenge asks for one sentence of a pattern, either a given one or any at all.
-/

namespace SentenceCards

/-- The sentence that a challenge asks for. -/
structure Target where
  surface : String
  /-- Its meaning in English. -/
  gloss : String
  deriving DecidableEq, Inhabited

/-- The target sentence with one space between its words. -/
def Target.normalized (target : Target) : String := Text.collapse target.surface

/-- What a slot of a challenge is for. -/
inductive Place where
  /-- For one word in its written form. -/
  | literal (surface : String)
  /-- For any word of a category. -/
  | word (category : Category)
  deriving DecidableEq, Inhabited

/-- A literal in quotes, or the name of the category. -/
def Place.text : Place → String
  | .literal surface => "\"" ++ surface ++ "\""
  | .word category => category.name

/-- An exercise of a lesson. -/
structure Challenge where
  id : String
  pattern : Pattern
  instruction : String
  /-- The sentence asked for; without one every valid sentence is right. -/
  target : Option Target
  places : List Place
  /-- The ids of the cards that the hand must hold. -/
  required : List String
  hints : List String
  deriving DecidableEq, Inhabited

namespace Challenge

/-- A challenge that asks for any sentence of the pattern and says nothing else. -/
def plain (id : String) (pattern : Pattern) : Challenge where
  id := id
  pattern := pattern
  instruction := ""
  target := none
  places := []
  required := []
  hints := []

/-- Whether any valid sentence is right. -/
def isFree (challenge : Challenge) : Bool := challenge.target.isNone

end Challenge

end SentenceCards
