import SentenceCards.Catalog.Basic

/-!
# Reading sentences

A text is read word by word.  Surfaces may have several words (`Kei te`,
`Tāmaki Makaurau`), and at each point the longest run of words that is the surface of
a catalog word becomes one token.
-/

namespace SentenceCards

/-- A piece of a text that has been read. -/
inductive Token where
  /-- The card of a catalog word. -/
  | known (card : Card)
  /-- A single word that the catalog lacks. -/
  | unknown (word : String)
  deriving DecidableEq, Inhabited

/-- Punctuation that may end a word of a sentence. -/
def isStop (c : Char) : Bool := c == '.' || c == ',' || c == '!' || c == '?'

/-- The words of a text without the punctuation at their ends.  Words made of
punctuation alone are left out. -/
def bareWords (text : String) : List String :=
  (((Text.words text.toList).map (Text.dropEnd isStop)).filter (!·.isEmpty)).map String.ofList

namespace Catalog

/-- The longest surface among the first `limit` words, with its number of words. -/
def longestRun? (catalog : Catalog) (words : List String) : (limit : Nat) → Option (Nat × Word)
  | 0 => none
  | limit + 1 =>
      match catalog.bySurface? (" ".intercalate (words.take (limit + 1))) with
      | some word => some (limit + 1, word)
      | none => longestRun? catalog words limit

/-- The tokens of a list of words, where `longest` bounds the number of words in a surface. -/
def readWords (catalog : Catalog) (longest : Nat) : List String → List Token
  | [] => []
  | word :: rest =>
      match catalog.longestRun? (word :: rest) (min longest (rest.length + 1)) with
      | some (count, found) =>
          .known (.ofWord found) :: readWords catalog longest (rest.drop (count - 1))
      | none => .unknown word :: readWords catalog longest rest
  termination_by words => words.length
  decreasing_by all_goals simp only [List.length_drop, List.length_cons]; omega

/-- The tokens of a text. -/
def read (catalog : Catalog) (text : String) : List Token :=
  catalog.readWords catalog.longestSurface (bareWords text)

/-- The cards of a text that has catalog words only. -/
def cardsOf (catalog : Catalog) (text : String) : Except Failure (List Card) :=
  (catalog.read text).mapM fun
    | .known card => .ok card
    | .unknown word => .error (Cause.wordNotFound word).failure

end Catalog

end SentenceCards
