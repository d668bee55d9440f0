import SentenceCards.Json.Value
import SentenceCards.Text.Layout

/-!
# Writing JSON

JSON on one line, without spaces.
-/

namespace SentenceCards.Json

/-- Whether a character is a control character. -/
def isControl (c : Char) : Bool := c.toNat < 0x20 || (0x7F ≤ c.toNat && c.toNat < 0xA0)

/-- A character inside a string.  Quotes, backslashes and control characters are escaped. -/
def writtenChar (c : Char) : List Char :=
  if c = '\\' then ['\\', '\\']
  else if c = '"' then ['\\', '"']
  else if c = '\n' then ['\\', 'n']
  else if c = '\r' then ['\\', 'r']
  else if c = '\t' then ['\\', 't']
  else if isControl c then '\\' :: 'u' :: Text.hexDigits 4 c.toNat
  else [c]

/-- A string in quotes. -/
def writtenString (text : String) : List Char :=
  '"' :: (text.toList.flatMap writtenChar ++ ['"'])

/-- The decimal digits of a number. -/
def decimalDigits (n : Nat) : List Char :=
  if n < 10 then [Char.ofNat (n + 48)]
  else decimalDigits (n / 10) ++ [Char.ofNat (n % 10 + 48)]

/-- An integer, negative ones with a minus sign. -/
def writtenInteger : Int → List Char
  | .ofNat n => decimalDigits n
  | .negSucc n => '-' :: decimalDigits (n + 1)

mutual

/-- The characters of a value. -/
def written : Json → List Char
  | .null => "null".toList
  | .bool true => "true".toList
  | .bool false => "false".toList
  | .integer n => writtenInteger n
  | .decimal text => text.toList
  | .string text => writtenString text
  | .array items => '[' :: writtenItems items
  | .object members => '\x7b' :: writtenMembers members

/-- The items of an array and the bracket after them. -/
def writtenItems : List Json → List Char
  | [] => [']']
  | item :: rest => written item ++ writtenMoreItems rest

/-- The items after another one, and the bracket. -/
def writtenMoreItems : List Json → List Char
  | [] => [']']
  | item :: rest => ',' :: (written item ++ writtenMoreItems rest)

/-- The members of an object and the brace after them. -/
def writtenMembers : List (String × Json) → List Char
  | [] => ['\x7d']
  | (key, value) :: rest =>
      writtenString key ++ ':' :: (written value ++ writtenMoreMembers rest)

/-- The members after another one, and the brace. -/
def writtenMoreMembers : List (String × Json) → List Char
  | [] => ['\x7d']
  | (key, value) :: rest =>
      ',' :: (writtenString key ++ ':' :: (written value ++ writtenMoreMembers rest))

end

/-- The text of a value. -/
def render (value : Json) : String := String.ofList (written value)

end SentenceCards.Json
