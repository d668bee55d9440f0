import SentenceCards.Vocabulary.Category
import SentenceCards.Vocabulary.Colour

/-!
# Words
-/

namespace SentenceCards

/-- An entry of a catalog.  Within a catalog the id determines the rest. -/
structure Word where
  id : String
  /-- How the word is written in Māori. -/
  surface : String
  /-- What it means in English. -/
  gloss : String
  category : Category
  colour : Colour
  /-- The module of the curriculum that introduces the word. -/
  unit : UInt8
  pronunciation : String
  usage : Option String
  culture : Option String
  deriving DecidableEq, Inhabited

end SentenceCards
