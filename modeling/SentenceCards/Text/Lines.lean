/-!
# Lines

The lines of a text are the pieces between its line breaks.
-/

namespace SentenceCards.Text

/-- Puts one more character in front of lines that have been separated already. -/
def pushToLines (c : Char) : List (List Char) → List (List Char)
  | [] => if c = '\n' then [[], []] else [[c]]
  | line :: later => if c = '\n' then [] :: line :: later else (c :: line) :: later

/-- The pieces of a text between its line breaks.  After a final line break comes an empty
piece. -/
def pieces (text : List Char) : List (List Char) := text.foldr pushToLines [[]]

/-- The lines of a string, without an empty piece at the end. -/
def linesOf (text : String) : List String :=
  let found := pieces text.toList
  (if found.getLast? = some [] then found.dropLast else found).map String.ofList

end SentenceCards.Text
