import SentenceCards.Text.HiddenTable

/-!
# Quoted texts

A text in double quotes, in which every character can be told from the others: quotes and
backslashes have a backslash before them, and what cannot be seen is written as a number.
-/

namespace SentenceCards.Text

/-- The lower-case hexadecimal numeral of a number. -/
def hexadecimal (n : Nat) : String := String.ofList (Nat.toDigits 16 n)

/-- A character as it is written between double quotes. -/
def escaped (c : Char) : String :=
  if c = '\x00' then "\\0"
  else if c = '\t' then "\\t"
  else if c = '\n' then "\\n"
  else if c = '\r' then "\\r"
  else if c = '"' then "\\\""
  else if c = '\\' then "\\\\"
  else if inRanges hiddenRanges c.toNat then "\\u\x7b" ++ hexadecimal c.toNat ++ "\x7d"
  else c.toString

/-- A text in double quotes. -/
def quoted (text : String) : String :=
  "\"" ++ String.join (text.toList.map escaped) ++ "\""

end SentenceCards.Text
