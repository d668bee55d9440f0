/-!
# Reading natural numbers

A numeral is a nonempty run of ASCII digits, optionally after a plus sign.
-/

namespace SentenceCards.Text

/-- The value of an ASCII digit. -/
def digitValue? (c : Char) : Option Nat :=
  if '0' ≤ c ∧ c ≤ '9' then some (c.toNat - 48) else none

/-- The value of the digits read so far followed by `digits`. -/
def readDigits? (read : Nat) : (digits : List Char) → Option Nat
  | [] => some read
  | c :: rest => do readDigits? (10 * read + (← digitValue? c)) rest

/-- The number that a numeral stands for; there is none for any other text. -/
def readNatural? : (text : List Char) → Option Nat
  | [] => none
  | ['+'] => none
  | '+' :: digits => readDigits? 0 digits
  | digits => readDigits? 0 digits

/-- The number that a numeral stands for, if it fits in 64 bits. -/
def readWord64? (text : String) : Option Nat :=
  (readNatural? text.toList).filter (· < UInt64.size)

end SentenceCards.Text
