/-!
# The shortest decimals of binary floating point numbers

A finite number of the binary64 format is a natural number below `2 ^ 53` times a power of two.
It is written with the fewest digits that are read back as the same number, and of all decimals
with so many digits the nearest one is taken.  All is done with natural numbers: a power of ten
and a power of two stand before every quantity, so that none of them has a fraction.
-/

namespace SentenceCards.Text

/-- A number of the binary64 format. -/
inductive Binary64 where
  /-- The number `mantissa * 2 ^ exponent`, or the opposite of it.  Unless it is zero or too
  small, the mantissa has 53 bits. -/
  | finite (negative : Bool) (mantissa : Nat) (exponent : Int)
  | infinite (negative : Bool)
  | notANumber
  deriving DecidableEq, Inhabited

namespace Binary64

/-- The exponent of the smallest numbers. -/
def leastExponent : Int := -1074

/-- The number `mantissa * 2 ^ exponent`, which the format has, with as many bits in the
mantissa as it can have. -/
def ofScaled (negative : Bool) (mantissa : Nat) (exponent : Int) : Binary64 :=
  let room := min (52 - mantissa.log2) (exponent - leastExponent).toNat
  if mantissa = 0 then .finite negative 0 leastExponent
  else .finite negative (mantissa <<< room) (exponent - room)

/-- The number whose pattern of bits is `bits`, in a format with `width` bits for the fraction
and `exponentWidth` bits for the exponent. -/
def ofBits (exponentWidth width bits : Nat) : Binary64 :=
  let fraction := bits % (1 <<< width)
  let exponent := (bits >>> width) % (1 <<< exponentWidth)
  let negative := (bits >>> (width + exponentWidth)) % 2 = 1
  let bias : Int := (1 <<< (exponentWidth - 1) : Nat) - 1 + width
  if exponent = (1 <<< exponentWidth) - 1 then
    if fraction = 0 then .infinite negative else .notANumber
  else if exponent = 0 then ofScaled negative fraction (1 - bias)
  else ofScaled negative ((1 <<< width) + fraction) (exponent - bias)

/-- The number with these 32 bits. -/
def ofBits32 (bits : Nat) : Binary64 := ofBits 8 23 bits

/-- The number with these 64 bits. -/
def ofBits64 (bits : Nat) : Binary64 := ofBits 11 52 bits

end Binary64

/-- A decimal `digits * 10 ^ exponent`. -/
structure Decimal where
  digits : Nat
  exponent : Int
  deriving DecidableEq, Inhabited

/-- The decimal `digits * 10 ^ exponent`, with one digit less if the last one is 0. -/
def Decimal.reduced (digits : Nat) (exponent : Int) : Decimal :=
  if digits % 10 = 0 then ⟨digits / 10, exponent + 1⟩ else ⟨digits, exponent⟩

/-- The number `n * 2 ^ binary * 10 ^ decimal`, times `2 ^ 1080 * 10 ^ 400`. -/
def scaled (n : Nat) (binary decimal : Int) : Nat :=
  (n <<< (binary + 1080).toNat) * Nat.pow 10 (decimal + 400).toNat

/-- Whether a scaled number is read back as `mantissa * 2 ^ exponent`: no other number is
nearer, and if one is as near, the mantissa is even. -/
def isReadBack (mantissa : Nat) (exponent : Int) (n : Nat) : Bool :=
  let below := if mantissa = 1 <<< 52 ∧ exponent ≠ Binary64.leastExponent then 1 else 2
  let low := scaled (4 * mantissa - below) (exponent - 2) 0
  let high := scaled (4 * mantissa + 2) (exponent - 2) 0
  if mantissa % 2 = 0 then low ≤ n && n ≤ high else low < n && n < high

/-- The decimal with the power `place` of ten that is nearest to `mantissa * 2 ^ exponent`, if
one of its two neighbours there is read back.  Of two that are as near, the greater one. -/
def decimalAt? (mantissa : Nat) (exponent place : Int) : Option Decimal :=
  let value := scaled mantissa exponent 0
  let unit := scaled 1 0 place
  let low := value / unit
  let fits := fun n => isReadBack mantissa exponent (n * unit)
  let nearer := if 2 * (value - low * unit) < unit then low else low + 1
  let farther := if 2 * (value - low * unit) < unit then low + 1 else low
  if fits nearer then some (.reduced nearer place)
  else if fits farther then some (.reduced farther place)
  else none

/-- The place of the first digit of `mantissa * 2 ^ exponent`: the least power of ten above it. -/
def magnitude (mantissa : Nat) (exponent : Int) : Int :=
  (Nat.toDigits 10 (scaled mantissa exponent 0 >>> 1080)).length - 400

/-- The decimal with the fewest digits that is read back as `mantissa * 2 ^ exponent`.  No
number of the format needs more than 17 digits. -/
def shortest (mantissa : Nat) (exponent : Int) : Decimal :=
  let top := magnitude mantissa exponent
  let found? := (List.range 17).findSome? fun (count : Nat) =>
    decimalAt? mantissa exponent (top - 1 - count)
  found?.getD ⟨mantissa, 0⟩

/-- A decimal without an exponent.  There is always a point, with a digit on either side. -/
def Decimal.positional (decimal : Decimal) : String :=
  let digits := Nat.toDigits 10 decimal.digits
  let zeros := fun count => List.replicate count '0'
  if 0 ≤ decimal.exponent then
    String.ofList (digits ++ zeros decimal.exponent.toNat ++ ['.', '0'])
  else
    let places := (-decimal.exponent).toNat
    let padded := zeros (places + 1 - digits.length) ++ digits
    let whole := padded.length - places
    String.ofList (padded.take whole ++ '.' :: padded.drop whole)

/-- The text of a number. -/
def Binary64.text : Binary64 → String
  | .finite negative mantissa exponent =>
      (if negative then "-" else "") ++
        (if mantissa = 0 then "0.0" else (shortest mantissa exponent).positional)
  | .infinite negative => if negative then "-inf" else "inf"
  | .notANumber => "NaN"

end SentenceCards.Text
