import SentenceCards.Dealing.Keystream

/-!
# Bounded draws

Dealing needs nothing from a source of randomness but numbers below a bound.
-/

namespace SentenceCards.Dealing

/-- A source from which numbers below a bound can be drawn. -/
class Draws (σ : Type) where
  /-- A number below the bound, and the source after the draw. -/
  below : (bound : Nat) → σ → Nat × σ
  /-- A number below the bound that has not been taken yet, drawn again until there is one. -/
  fresh : (bound : Nat) → (taken : List Nat) → σ → Nat × σ

/-- Every draw with a positive bound stays below the bound. -/
def IsBounded (σ : Type) [Draws σ] : Prop :=
  ∀ (bound : Nat) (source : σ), 0 < bound → (Draws.below bound source).1 < bound

/-- Drawing again comes to an end as long as not all numbers have been taken. -/
def FindsFresh (σ : Type) [Draws σ] : Prop :=
  ∀ (bound : Nat) (taken : List Nat) (source : σ), (∃ number < bound, number ∉ taken) →
    (Draws.fresh bound taken source).1 < bound ∧ (Draws.fresh bound taken source).1 ∉ taken

/-- A keystream that has been read up to a position. -/
structure Generator where
  key : Key
  position : Nat
  deriving DecidableEq

namespace Generator

/-- The generator for a seed, before the first draw. -/
def ofSeed (seed : UInt64) : Generator := ⟨keyOfSeed seed, 0⟩

/-- The largest low half of a product that is accepted in a single draw below `bound`: the bound
shifted up to the top bit, less one. -/
def acceptance (bound : Nat) : Nat :=
  (bound <<< (31 - Nat.log2 bound)) - 1

/-- The largest low half of a product that is accepted when numbers below `bound` are drawn one
after the other: as many low halves are accepted as there are whole multiples of the bound. -/
def fullAcceptance (bound : Nat) : Nat :=
  UInt32.size - 1 - UInt32.size % bound

/-- Multiplies words with the bound until the low half of a product is accepted, and gives
the high half.  At least half of all words are accepted, so a run of `attempts` words
without an accepted one does not happen in practice; it gives zero. -/
def drawBelow (bound accepted : Nat) (generator : Generator) : (attempts : Nat) → Nat × Generator
  | 0 => (0, generator)
  | attempts + 1 =>
      let product := (keyWord generator.key generator.position).toNat * bound
      let later := { generator with position := generator.position + 1 }
      if product % UInt32.size ≤ accepted then (product / UInt32.size, later)
      else drawBelow bound accepted later attempts

/-- Draws until a number has not been taken.  This is done only if few numbers have been taken, so
a run of `attempts` draws without a fresh one does not happen in practice; it gives the lowest
fresh number. -/
def drawFresh (bound : Nat) (taken : List Nat) (generator : Generator) :
    (attempts : Nat) → Nat × Generator
  | 0 => (((List.range bound).find? (!taken.contains ·)).getD 0, generator)
  | attempts + 1 =>
      let (number, later) := drawBelow bound (fullAcceptance bound) generator 1024
      if taken.contains number then drawFresh bound taken later attempts else (number, later)

instance : Draws Generator where
  below bound generator := drawBelow bound (acceptance bound) generator 1024
  fresh bound taken generator := drawFresh bound taken generator 1024

theorem drawBelow_lt {bound : Nat} (positive : 0 < bound) (accepted : Nat)
    (generator : Generator) (attempts : Nat) :
    (drawBelow bound accepted generator attempts).1 < bound := by
  induction attempts generalizing generator with
  | zero => exact positive
  | succ attempts ih =>
      simp only [drawBelow]
      split
      · have word := (keyWord generator.key generator.position).toNat_lt_size
        exact Nat.div_lt_of_lt_mul (Nat.mul_lt_mul_of_pos_right word positive)
      · exact ih _

theorem drawFresh_fresh {bound : Nat} {taken : List Nat} (left : ∃ number < bound, number ∉ taken)
    (generator : Generator) (attempts : Nat) :
    (drawFresh bound taken generator attempts).1 < bound ∧
      (drawFresh bound taken generator attempts).1 ∉ taken := by
  obtain ⟨number, inside, untaken⟩ := left
  induction attempts generalizing generator with
  | zero =>
      cases found : (List.range bound).find? (!taken.contains ·) with
      | none =>
          have all := List.find?_eq_none.mp found number (List.mem_range.mpr inside)
          simp [untaken] at all
      | some lowest =>
          rw [drawFresh, found]
          refine ⟨List.mem_range.mp (List.mem_of_find?_eq_some found), ?_⟩
          simpa using List.find?_some found
  | succ attempts ih =>
      have below := drawBelow_lt (Nat.zero_lt_of_lt inside) (fullAcceptance bound) generator 1024
      rcases draw : drawBelow bound (fullAcceptance bound) generator 1024 with ⟨drawn, later⟩
      rw [draw] at below
      simp only [drawFresh, draw]
      split
      · exact ih later
      next fresh => exact ⟨below, by simpa using fresh⟩

theorem isBounded : IsBounded Generator :=
  fun _ generator positive => drawBelow_lt positive _ generator 1024

theorem findsFresh : FindsFresh Generator :=
  fun _ _ generator left => drawFresh_fresh left generator 1024

end Generator

end SentenceCards.Dealing
