import SentenceCards.Catalog.Reading

/-!
# Highlighting

A line is shown with its words in the colours of their cards, so that the learner sees
the structure of a sentence while typing it.  Only terminal codes are added to the line.
-/

namespace SentenceCards

open Text (Spaced)

/-- A piece of a line. -/
inductive Segment where
  /-- Shown as it is. -/
  | plain (text : List Char)
  /-- Shown in a style. -/
  | painted (code : String) (text : List Char)
  deriving DecidableEq, Inhabited

namespace Segment

/-- The characters of the line. -/
def text : Segment → List Char
  | plain text => text
  | painted _ text => text

/-- The characters with terminal codes. -/
def shown : Segment → List Char
  | plain text => text
  | painted code text => (inStyle code (String.ofList text)).toList

def isPainted : Segment → Bool
  | plain _ => false
  | painted .. => true

end Segment

namespace Highlight

/-- The style of a command. -/
def commandCode : String := "\x1b[36m"

/-- The style of a number. -/
def numberCode : String := "\x1b[35m"

/-- The number of words in the longest surfaces that are looked for. -/
def longestRun : Nat := 3

/-- The text of words with the gaps between them. -/
def runText : List Spaced → List Char
  | [] => []
  | first :: rest => first.word ++ rest.flatMap Spaced.text

/-- The longest run of at most `limit` words that is a surface apart from punctuation at its end,
with the colour of its card. -/
def paintedRun? (catalog : Catalog) (words : List Spaced) : (limit : Nat) →
    Option (Nat × Colour)
  | 0 => none
  | limit + 1 =>
      let run := runText (words.take (limit + 1))
      match catalog.bySurface? (String.ofList (Text.dropEnd isStop run)) with
      | some word => some (limit + 1, word.colour)
      | none => paintedRun? catalog words limit

/-- Whether a word is a command. -/
def isCommand (word : List Char) : Bool := word.head? == some ':'

/-- Whether a word is a number. -/
def isNumber (word : List Char) : Bool := word.all Char.isDigit

/-- The segments of words; only the first word of a line can be a command. -/
def segments (catalog : Catalog) (first : Bool) : List Spaced → List Segment
  | [] => []
  | next :: rest =>
      if first && isCommand next.word then
        .plain next.gap :: .painted commandCode next.word :: segments catalog false rest
      else if isNumber next.word then
        .plain next.gap :: .painted numberCode next.word :: segments catalog false rest
      else
        match paintedRun? catalog (next :: rest) (min longestRun (rest.length + 1)) with
        | some (count, colour) =>
            .plain next.gap :: .painted colour.code (runText ((next :: rest).take count)) ::
              segments catalog false (rest.drop (count - 1))
        | none => .plain next.text :: segments catalog false rest
  termination_by words => words.length
  decreasing_by all_goals simp only [List.length_drop, List.length_cons]; omega

/-- The segments of a line. -/
def segmentsOf (catalog : Catalog) (line : String) : List Segment :=
  let (words, rest) := Text.spaced line.toList
  segments catalog true words ++ [.plain rest]

/-- The line with terminal codes, if any are added. -/
def highlight? (catalog : Catalog) (line : String) : Option String :=
  let found := segmentsOf catalog line
  if found.any Segment.isPainted then some (String.ofList (found.flatMap Segment.shown))
  else none

end Highlight

end SentenceCards
