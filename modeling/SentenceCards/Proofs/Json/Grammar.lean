import SentenceCards.Json.Reader

/-!
# The grammar of JSON

`Denotes` is the grammar of RFC 8259, with the value that each part of a text stands for.  A whole
text stands for a value with white space around it (`IsText`).
-/

namespace SentenceCards.Json

/-- White space between tokens. -/
def IsGap (text : List Char) : Prop := ∀ c ∈ text, isSpace c = true

section Strings

/-- The letters that stand for one character each after a backslash. -/
def shortEscapes : List (Char × Char) :=
  [('"', '"'), ('\\', '\\'), ('/', '/'), ('b', '\x08'), ('f', '\x0c'), ('n', '\n'), ('r', '\r'),
    ('t', '\t')]

/-- Four hexadecimal digits, and their value. -/
inductive IsUnit : List Char → Nat → Prop where
  | digits {a b c d : Char} {first second third fourth : Nat} :
      hexValue? a = some first → hexValue? b = some second → hexValue? c = some third →
      hexValue? d = some fourth →
      IsUnit [a, b, c, d] (((first * 16 + second) * 16 + third) * 16 + fourth)

/-- What stands for a character inside a string. -/
inductive StandsFor : List Char → Char → Prop where
  | plain {c : Char} : c ≠ '"' → c ≠ '\\' → 0x20 ≤ c.toNat → StandsFor [c] c
  | short {letter c : Char} : (letter, c) ∈ shortEscapes → StandsFor ['\\', letter] c
  | unit {digits : List Char} {n : Nat} : IsUnit digits n → (n < 0xD800 ∨ 0xE000 ≤ n) →
      StandsFor ('\\' :: 'u' :: digits) (Char.ofNat n)
  /-- A character above U+FFFF, as a high and a low unit. -/
  | pair {first second : List Char} {high low : Nat} : IsUnit first high → IsUnit second low →
      (0xD800 ≤ high ∧ high < 0xDC00) → (0xDC00 ≤ low ∧ low < 0xE000) →
      StandsFor ('\\' :: 'u' :: (first ++ '\\' :: 'u' :: second))
        (Char.ofNat (0x10000 + (high - 0xD800) * 0x400 + (low - 0xDC00)))

/-- What stands for characters inside a string. -/
inductive Inside : List Char → List Char → Prop where
  | nil : Inside [] []
  | cons {piece text rest : List Char} {c : Char} : StandsFor piece c → Inside text rest →
      Inside (piece ++ text) (c :: rest)

end Strings

section Numbers

/-- A digit below ten. -/
def digit (n : Nat) : Char := Char.ofNat (n + 48)

/-- Decimal digits without leading zeros. -/
inductive Numeral : List Char → Nat → Prop where
  | digit {n : Nat} : n < 10 → Numeral [digit n] n
  | further {front : List Char} {n last : Nat} : Numeral front n → 0 < n → last < 10 →
      Numeral (front ++ [Json.digit last]) (10 * n + last)

/-- Nothing, or a point with digits after it. -/
inductive IsFraction : List Char → Prop where
  | absent : IsFraction []
  | present {digits : List Char} : digits ≠ [] → (∀ c ∈ digits, c.isDigit = true) →
      IsFraction ('.' :: digits)

/-- Nothing, or the letter e with an integer after it. -/
inductive IsExponent : List Char → Prop where
  | absent : IsExponent []
  | present {mark : Char} {sign digits : List Char} : mark = 'e' ∨ mark = 'E' →
      sign ∈ [[], ['+'], ['-']] → digits ≠ [] → (∀ c ∈ digits, c.isDigit = true) →
      IsExponent (mark :: (sign ++ digits))

/-- A number, and what it is read as.  Only integers are told by their value; there is none below
zero that is zero. -/
inductive IsNumber : List Char → Json → Prop where
  | natural {digits : List Char} {n : Nat} : Numeral digits n → IsNumber digits (.integer n)
  | negative {digits : List Char} {n : Nat} : Numeral digits n → 0 < n →
      IsNumber ('-' :: digits) (.integer (-n))
  | decimal {sign digits fraction exponent : List Char} {n : Nat} : sign = [] ∨ sign = ['-'] →
      Numeral digits n → IsFraction fraction → IsExponent exponent →
      fraction ≠ [] ∨ exponent ≠ [] ∨ sign = ['-'] ∧ n = 0 →
      IsNumber (sign ++ digits ++ fraction ++ exponent)
        (.decimal (String.ofList (sign ++ digits ++ fraction ++ exponent)))

end Numbers

/-- What a part of a text can stand for. -/
inductive Part where
  | value (value : Json)
  /-- A value with white space around it. -/
  | spaced (value : Json)
  /-- The items between the brackets of an array. -/
  | items (items : List Json)
  | member (key : String) (value : Json)
  /-- The members between the braces of an object. -/
  | members (members : List (String × Json))

/-- What a part of a text stands for. -/
inductive Denotes : List Char → Part → Prop where
  | null : Denotes "null".toList (.value .null)
  | yes : Denotes "true".toList (.value (.bool true))
  | no : Denotes "false".toList (.value (.bool false))
  | number {text : List Char} {value : Json} : IsNumber text value → Denotes text (.value value)
  | string {text : List Char} {content : String} : Inside text content.toList →
      Denotes ('"' :: (text ++ ['"'])) (.value (.string content))
  | noItems {gap : List Char} : IsGap gap → Denotes ('[' :: (gap ++ [']'])) (.value (.array []))
  | array {text : List Char} {items : List Json} : Denotes text (.items items) →
      Denotes ('[' :: (text ++ [']'])) (.value (.array items))
  | noMembers {gap : List Char} : IsGap gap →
      Denotes ('\x7b' :: (gap ++ ['\x7d'])) (.value (.object []))
  | object {text : List Char} {members : List (String × Json)} : Denotes text (.members members) →
      Denotes ('\x7b' :: (text ++ ['\x7d'])) (.value (.object members))
  | spaced {before text after : List Char} {value : Json} : IsGap before →
      Denotes text (.value value) → IsGap after → Denotes (before ++ text ++ after) (.spaced value)
  | lastItem {text : List Char} {item : Json} : Denotes text (.spaced item) →
      Denotes text (.items [item])
  | item {text rest : List Char} {item : Json} {items : List Json} : Denotes text (.spaced item) →
      Denotes rest (.items items) → Denotes (text ++ ',' :: rest) (.items (item :: items))
  | member {before text after rest : List Char} {key : String} {value : Json} : IsGap before →
      Inside text key.toList → IsGap after → Denotes rest (.spaced value) →
      Denotes (before ++ '"' :: (text ++ '"' :: (after ++ ':' :: rest))) (.member key value)
  | lastMember {text : List Char} {key : String} {value : Json} :
      Denotes text (.member key value) → Denotes text (.members [(key, value)])
  | moreMembers {text rest : List Char} {key : String} {value : Json}
      {members : List (String × Json)} : Denotes text (.member key value) →
      Denotes rest (.members members) →
      Denotes (text ++ ',' :: rest) (.members ((key, value) :: members))

/-- A whole JSON text for a value. -/
def IsText (text : String) (value : Json) : Prop := Denotes text.toList (.spaced value)

theorem isGap_nil : IsGap [] := fun _ member => absurd member List.not_mem_nil

theorem Denotes.unspaced {text : List Char} {value : Json} (denotes : Denotes text (.value value)) :
    Denotes text (.spaced value) := by
  have spaced := Denotes.spaced isGap_nil denotes isGap_nil
  rwa [List.nil_append, List.append_nil] at spaced

end SentenceCards.Json
