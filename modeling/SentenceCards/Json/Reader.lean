import SentenceCards.Json.Value
import SentenceCards.Text.Numeral

/-!
# Reading JSON

The grammar of RFC 8259.  Each function reads one part of the grammar from the front of
a text and gives what it read with the rest of the text.  Every step takes a character,
so the length of the text bounds the number of steps.
-/

namespace SentenceCards.Json

/-- White space between the tokens of JSON. -/
def isSpace (c : Char) : Bool := c == ' ' || c == '\t' || c == '\n' || c == '\r'

def skipSpace (text : List Char) : List Char := text.dropWhile isSpace

/-- The value of a hexadecimal digit in either case. -/
def hexValue? (c : Char) : Option Nat :=
  if '0' ≤ c ∧ c ≤ '9' then some (c.toNat - 48)
  else if 'a' ≤ c ∧ c ≤ 'f' then some (c.toNat - 87)
  else if 'A' ≤ c ∧ c ≤ 'F' then some (c.toNat - 55)
  else none

/-- Four hexadecimal digits. -/
def readUnit : List Char → Option (Nat × List Char)
  | a :: b :: c :: d :: rest => do
      let value := ((← hexValue? a) * 16 + (← hexValue? b)) * 16 + (← hexValue? c)
      return (value * 16 + (← hexValue? d), rest)
  | _ => none

/-- The character that `\u` and the digits after it stand for.  Characters above U+FFFF are
written as two units. -/
def readEscapedUnit (text : List Char) : Option (Char × List Char) := do
  let (unit, rest) ← readUnit text
  if 0xD800 ≤ unit ∧ unit < 0xDC00 then
    match rest with
    | '\\' :: 'u' :: rest => do
        let (low, rest) ← readUnit rest
        if 0xDC00 ≤ low ∧ low < 0xE000 then
          return (Char.ofNat (0x10000 + (unit - 0xD800) * 0x400 + (low - 0xDC00)), rest)
        else none
    | _ => none
  else if 0xDC00 ≤ unit ∧ unit < 0xE000 then none
  else return (Char.ofNat unit, rest)

/-- The character that a backslash and the text after it stand for. -/
def readEscape : List Char → Option (Char × List Char)
  | '"' :: rest => some ('"', rest)
  | '\\' :: rest => some ('\\', rest)
  | '/' :: rest => some ('/', rest)
  | 'b' :: rest => some ('\x08', rest)
  | 'f' :: rest => some ('\x0c', rest)
  | 'n' :: rest => some ('\n', rest)
  | 'r' :: rest => some ('\r', rest)
  | 't' :: rest => some ('\t', rest)
  | 'u' :: rest => readEscapedUnit rest
  | _ => none

/-- The characters of a string up to its closing quote. -/
def readChars : (steps : Nat) → List Char → Option (List Char × List Char)
  | 0, _ => none
  | _ + 1, [] => none
  | steps + 1, c :: rest =>
      if c = '"' then some ([], rest)
      else if c = '\\' then do
        let (c, rest) ← readEscape rest
        let (more, rest) ← readChars steps rest
        return (c :: more, rest)
      else if c.toNat < 0x20 then none
      else do
        let (more, rest) ← readChars steps rest
        return (c :: more, rest)

/-- A string, after its opening quote. -/
def readString (text : List Char) : Option (String × List Char) :=
  (readChars (text.length + 1) text).map fun (chars, rest) => (String.ofList chars, rest)

/-- The digits at the front of a text. -/
def readDigits (text : List Char) : List Char × List Char :=
  text.span Char.isDigit

/-- A point and the digits after it, or nothing. -/
def readFraction : List Char → Option (List Char × List Char)
  | '.' :: rest =>
      let (digits, rest) := readDigits rest
      if digits.isEmpty then none else some ('.' :: digits, rest)
  | text => some ([], text)

/-- The sign at the front of an exponent. -/
def readSign : List Char → List Char × List Char
  | '+' :: rest => (['+'], rest)
  | '-' :: rest => (['-'], rest)
  | text => ([], text)

/-- An exponent, or nothing. -/
def readExponent : List Char → Option (List Char × List Char)
  | c :: rest =>
      if c = 'e' ∨ c = 'E' then
        let (sign, rest) := readSign rest
        let (digits, rest) := readDigits rest
        if digits.isEmpty then none else some (c :: sign ++ digits, rest)
      else some ([], c :: rest)
  | [] => some ([], [])

/-- A number that begins with a digit. -/
def readUnsigned (negative : Bool) (text : List Char) : Option (Json × List Char) := do
  let (digits, rest) := readDigits text
  let value ← if digits.isEmpty then none else Text.readDigits? 0 digits
  if digits.head? = some '0' ∧ digits ≠ ['0'] then none
  else
    let (fraction, rest) ← readFraction rest
    let (exponent, rest) ← readExponent rest
    let sign := if negative then ['-'] else []
    if fraction.isEmpty ∧ exponent.isEmpty ∧ ¬ (negative ∧ value = 0) then
      return (.integer (if negative then -(value : Int) else value), rest)
    else return (.decimal (String.ofList (sign ++ digits ++ fraction ++ exponent)), rest)

/-- A number, with or without a minus sign. -/
def readNumber : List Char → Option (Json × List Char)
  | '-' :: rest => readUnsigned true rest
  | text => readUnsigned false text

/-- The rest of the text after `word` at its front. -/
def readWord : (word text : List Char) → Option (List Char)
  | [], text => some text
  | c :: word, d :: text => if c = d then readWord word text else none
  | _ :: _, [] => none

mutual

/-- A value, with white space before it. -/
def readValue : (steps : Nat) → List Char → Option (Json × List Char)
  | 0, _ => none
  | steps + 1, text =>
      match skipSpace text with
      | [] => none
      | c :: rest =>
          if c = '"' then (readString rest).map fun (text, rest) => (.string text, rest)
          else if c = '[' then readArray steps rest
          else if c = '\x7b' then readObject steps rest
          else if c = 'n' then (readWord "ull".toList rest).map fun rest => (.null, rest)
          else if c = 't' then (readWord "rue".toList rest).map fun rest => (.bool true, rest)
          else if c = 'f' then (readWord "alse".toList rest).map fun rest => (.bool false, rest)
          else readNumber (c :: rest)

/-- An array, after its opening bracket. -/
def readArray : (steps : Nat) → List Char → Option (Json × List Char)
  | 0, _ => none
  | steps + 1, text =>
      match skipSpace text with
      | ']' :: rest => some (.array [], rest)
      | text => do
          let (items, rest) ← readItems steps text
          return (.array items, rest)

/-- The items of an array and the bracket after them. -/
def readItems : (steps : Nat) → List Char → Option (List Json × List Char)
  | 0, _ => none
  | steps + 1, text => do
      let (item, rest) ← readValue steps text
      match skipSpace rest with
      | ',' :: rest => do
          let (more, rest) ← readItems steps rest
          return (item :: more, rest)
      | ']' :: rest => some ([item], rest)
      | _ => none

/-- An object, after its opening brace. -/
def readObject : (steps : Nat) → List Char → Option (Json × List Char)
  | 0, _ => none
  | steps + 1, text =>
      match skipSpace text with
      | '\x7d' :: rest => some (.object [], rest)
      | text => do
          let (members, rest) ← readMembers steps text
          return (.object members, rest)

/-- The members of an object and the brace after them. -/
def readMembers : (steps : Nat) → List Char → Option (List (String × Json) × List Char)
  | 0, _ => none
  | steps + 1, text =>
      match skipSpace text with
      | '"' :: rest => do
          let (key, rest) ← readString rest
          match skipSpace rest with
          | ':' :: rest => do
              let (value, rest) ← readValue steps rest
              match skipSpace rest with
              | ',' :: rest => do
                  let (more, rest) ← readMembers steps rest
                  return ((key, value) :: more, rest)
              | '\x7d' :: rest => some ([(key, value)], rest)
              | _ => none
          | _ => none
      | _ => none

end

/-- The value that a whole text is. -/
def read? (text : String) : Option Json := do
  let chars := text.toList
  let (value, rest) ← readValue (2 * chars.length + 2) chars
  if (skipSpace rest).isEmpty then some value else none

end SentenceCards.Json
