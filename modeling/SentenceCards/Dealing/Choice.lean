import SentenceCards.Dealing.Draw

/-!
# Shuffling and choosing

A list is shuffled by exchanging each place, from the last one down, with a drawn
place at or before it.  Different indices below a number are chosen in one of three ways:
by Floyd's method, which draws once for each index, by partly shuffling the list of
all indices, or by drawing each index again until it is a new one.
-/

namespace SentenceCards.Dealing

variable {σ : Type} [Draws σ] {α : Type}

/-- Exchanges each place up to `top` with a drawn place at or before it. -/
def shuffleUpTo : (top : Nat) → Array α → σ → Array α × σ
  | 0, items, source => (items, source)
  | top + 1, items, source =>
      let (place, source) := Draws.below (top + 2) source
      shuffleUpTo top (items.swapIfInBounds (top + 1) place) source

/-- The items in a drawn order. -/
def shuffle (items : List α) (source : σ) : List α × σ :=
  let (shuffled, source) := shuffleUpTo (items.length - 1) items.toArray source
  (shuffled.toList, source)

/-- Exchanges each of the next `count` places from `place` on with a drawn place at or after it. -/
def openingSwaps : (count place : Nat) → Array α → σ → Array α × σ
  | 0, _, items, source => (items, source)
  | count + 1, place, items, source =>
      let (offset, source) := Draws.below (items.size - place) source
      openingSwaps count (place + 1) (items.swapIfInBounds place (place + offset)) source

/-- Chooses indices as the beginning of a partly shuffled list. -/
def chooseInPlace (total amount : Nat) (source : σ) : List Nat × σ :=
  let (items, source) := openingSwaps amount 0 (Array.range total) source
  (items.toList.take amount, source)

/-- Adds to the chosen indices one at or below `top`: a drawn one, or `top` itself if the drawn
one has been chosen.  In an ordered choice `top` then takes the place of the drawn one. -/
def addDrawn (ordered : Bool) (chosen : List Nat) (top drawn : Nat) : List Nat :=
  if chosen.contains drawn then
    if ordered then chosen.insertIdx (chosen.idxOf drawn) top else chosen ++ [top]
  else chosen ++ [drawn]

/-- Chooses one index for each of the next `count` numbers from `top` on. -/
def floydSteps (ordered : Bool) : (count top : Nat) → List Nat → σ → List Nat × σ
  | 0, _, chosen, source => (chosen, source)
  | count + 1, top, chosen, source =>
      let (drawn, source) := Draws.below (top + 1) source
      floydSteps ordered count (top + 1) (addDrawn ordered chosen top drawn) source

/-- Chooses indices by Floyd's method.  A choice of fifty or more is shuffled afterwards. -/
def chooseFloyd (total amount : Nat) (source : σ) : List Nat × σ :=
  let ordered := decide (amount < 50)
  let (chosen, source) := floydSteps ordered amount (total - amount) [] source
  if ordered then (chosen, source) else shuffle chosen source

/-- Chooses each of the next `count` indices among those that have not been chosen. -/
def freshSteps (total : Nat) : (count : Nat) → List Nat → σ → List Nat × σ
  | 0, chosen, source => (chosen, source)
  | count + 1, chosen, source =>
      let (drawn, source) := Draws.fresh total chosen source
      freshSteps total count (chosen ++ [drawn]) source

/-- Chooses indices by drawing them again until they are new. -/
def chooseByRejection (total amount : Nat) (source : σ) : List Nat × σ :=
  freshSteps total amount [] source

/-- A way to choose indices. -/
inductive Strategy where
  | floyd
  | inPlace
  | rejection
  deriving DecidableEq

/-- The nearest number of at most 24 binary digits and zeros after them; of two, the one with the
even digits. -/
def single (n : Nat) : Nat :=
  let scale := 1 <<< (n.log2 - 23)
  let digits := n / scale
  let rest := 2 * (n % scale)
  (if rest < scale || (rest = scale && digits % 2 = 0) then digits else digits + 1) * scale

/-- Whether so many indices are so large a part of all that all are put in a list.  Of half a
million or more it is a part of 3 in 110, in the precision in which this is reckoned. -/
def isLargePart (total amount : Nat) : Bool :=
  if total < 500000 then total < 270 * amount
  else single total <<< 18 < single (9611947 * single amount)

/-- The way that takes the least work. -/
def strategy (total amount : Nat) : Strategy :=
  if UInt32.size ≤ total then .rejection
  else if amount < 163 then
    if 11 < amount && 5 * total < (50 + 8 * amount) * amount then .inPlace else .floyd
  else if isLargePart total amount then .inPlace
  else .rejection

/-- Chooses `amount` different indices below `total`, for `amount ≤ total`. -/
def chooseIndices (total amount : Nat) (source : σ) : List Nat × σ :=
  match strategy total amount with
  | .floyd => chooseFloyd total amount source
  | .inPlace => chooseInPlace total amount source
  | .rejection => chooseByRejection total amount source

/-- Chooses `amount` of the items, or all of them if there are fewer. -/
def choose (items : List α) (amount : Nat) (source : σ) : List α × σ :=
  let (indices, source) := chooseIndices items.length (min amount items.length) source
  (indices.filterMap (items[·]?), source)

end SentenceCards.Dealing
