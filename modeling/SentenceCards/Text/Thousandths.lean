import SentenceCards.Text.Layout

/-!
# Doubles with three decimal places

A double stands for one exact number, and that number is rounded to thousandths,
a tie going to the even neighbour.
-/

namespace SentenceCards.Text

/-- The quotient rounded to the nearest natural number, a tie going to the even one. -/
def roundedQuotient (num den : Nat) : Nat :=
  let down := num / den
  let twice := 2 * (num % den)
  if twice < den then down
  else if den < twice then down + 1
  else down + down % 2

/-- The whole number `m` and the exponent `e` with `m * 2 ^ e = 2 ^ 1074 * x`, for a
finite double `x` that is not negative. -/
def doubleParts (x : Float) : Nat × Nat :=
  let bits := x.toBits.toNat
  let exponent := (bits >>> 52) % (1 <<< 11)
  let fraction := bits % (1 <<< 52)
  if exponent = 0 then (fraction, 0) else ((1 <<< 52) + fraction, exponent - 1)

/-- The thousandths in a double that is not negative, rounded. -/
def thousandths (x : Float) : Nat :=
  let (m, e) := doubleParts x
  roundedQuotient ((m <<< e) * 1000) (1 <<< 1074)

/-- A double that is not negative, written with three decimal places. -/
def threePlaces (x : Float) : String :=
  let n := thousandths x
  s!"{n / 1000}.{zeroPadded 3 (n % 1000)}"

end SentenceCards.Text
