import Mathlib.Data.List.Perm.Subperm
import SentenceCards.Dealing.Choice

/-!
# What shuffling and choosing keep

Shuffling keeps the items, whatever is drawn.  Choosing takes every item at most once and as many
items as are wanted and available (`choose_subperm`, `length_choose`), as long as the source keeps
to the bounds and, where indices are drawn again until they are new, finds new ones (`Serves`).
Floyd's method keeps the indices chosen so far different and below a bound that grows by one with
each of them (`ChosenBelow.addDrawn`).
-/

open scoped List

namespace SentenceCards.Dealing

variable {σ : Type} [Draws σ] {α : Type}

section Swaps

theorem swapIfInBounds_perm (items : Array α) (first second : Nat) :
    (items.swapIfInBounds first second).toList ~ items.toList := by
  unfold Array.swapIfInBounds
  split
  next inside =>
    split
    next insideToo => exact (Array.swap_perm inside insideToo).toList
    next => exact .refl _
  next => exact .refl _

theorem shuffleUpTo_perm (top : Nat) (items : Array α) (source : σ) :
    (shuffleUpTo top items source).1.toList ~ items.toList := by
  induction top generalizing items source with
  | zero => exact .refl _
  | succ top ih =>
      rcases drawn : Draws.below (top + 2) source with ⟨place, later⟩
      have swapped := swapIfInBounds_perm items (top + 1) place
      rw [shuffleUpTo, drawn]
      exact (ih (items.swapIfInBounds (top + 1) place) later).trans swapped

theorem shuffle_perm (items : List α) (source : σ) : (shuffle items source).1 ~ items :=
  shuffleUpTo_perm (items.length - 1) items.toArray source

theorem openingSwaps_perm (count place : Nat) (items : Array α) (source : σ) :
    (openingSwaps count place items source).1.toList ~ items.toList := by
  induction count generalizing place items source with
  | zero => exact .refl _
  | succ count ih =>
      rcases drawn : Draws.below (items.size - place) source with ⟨offset, later⟩
      have swapped := swapIfInBounds_perm items place (place + offset)
      rw [openingSwaps, drawn]
      exact (ih (place + 1) (items.swapIfInBounds place (place + offset)) later).trans swapped

end Swaps

/-- The indices are `amount` different ones, all of them below the bound. -/
structure ChosenBelow (bound amount : Nat) (chosen : List Nat) : Prop where
  nodup : chosen.Nodup
  below : ∀ index ∈ chosen, index < bound
  length : chosen.length = amount

namespace ChosenBelow

variable {bound amount : Nat} {chosen : List Nat}

theorem none (bound : Nat) : ChosenBelow bound 0 [] where
  nodup := .nil
  below := by simp
  length := rfl

theorem of_perm {others : List Nat} (chosenBelow : ChosenBelow bound amount chosen)
    (same : others ~ chosen) : ChosenBelow bound amount others where
  nodup := same.nodup_iff.mpr chosenBelow.nodup
  below := fun index member => chosenBelow.below index (same.mem_iff.mp member)
  length := same.length_eq.trans chosenBelow.length

theorem raise (chosenBelow : ChosenBelow bound amount chosen) :
    ChosenBelow (bound + 1) amount chosen where
  nodup := chosenBelow.nodup
  below := fun index member => Nat.lt_succ_of_lt (chosenBelow.below index member)
  length := chosenBelow.length

/-- One more index, new and below the bound. -/
theorem cons {index : Nat} (chosenBelow : ChosenBelow bound amount chosen)
    (fresh : index ∉ chosen) (inside : index < bound) :
    ChosenBelow bound (amount + 1) (index :: chosen) where
  nodup := List.nodup_cons.mpr ⟨fresh, chosenBelow.nodup⟩
  below := List.forall_mem_cons.mpr ⟨inside, chosenBelow.below⟩
  length := by rw [List.length_cons, chosenBelow.length]

/-- As long as fewer indices than there are have been chosen, one is left. -/
theorem exists_left (chosenBelow : ChosenBelow bound amount chosen) (fewer : amount < bound) :
    ∃ index < bound, index ∉ chosen := by
  by_contra! covered
  have length := (List.subperm_of_subset List.nodup_range fun index inside =>
    covered index (List.mem_range.mp inside)).length_le
  rw [List.length_range, chosenBelow.length] at length
  exact absurd fewer (Nat.not_lt.mpr length)

theorem not_mem_self (chosenBelow : ChosenBelow bound amount chosen) : bound ∉ chosen :=
  fun member => Nat.lt_irrefl bound (chosenBelow.below bound member)

end ChosenBelow

theorem addDrawn_perm (ordered : Bool) (chosen : List Nat) (top drawn : Nat) :
    addDrawn ordered chosen top drawn ~ (if drawn ∈ chosen then top else drawn) :: chosen := by
  unfold addDrawn
  by_cases known : drawn ∈ chosen
  · simp only [List.contains_eq_mem, known, decide_true, if_true]
    split
    · exact List.perm_insertIdx top chosen List.idxOf_le_length
    · exact List.perm_append_singleton top chosen
  · simp only [List.contains_eq_mem, known, decide_false, if_false, Bool.false_eq_true]
    exact List.perm_append_singleton drawn chosen

/-- What is drawn is at or below `top`, and so is `top` itself, which has not been chosen yet. -/
theorem ChosenBelow.addDrawn {top amount drawn : Nat} {chosen : List Nat}
    (chosenBelow : ChosenBelow top amount chosen) (ordered : Bool) (bounded : drawn < top + 1) :
    ChosenBelow (top + 1) (amount + 1) (addDrawn ordered chosen top drawn) := by
  have added := addDrawn_perm ordered chosen top drawn
  by_cases known : drawn ∈ chosen
  · rw [if_pos known] at added
    exact (chosenBelow.raise.cons chosenBelow.not_mem_self (Nat.lt_succ_self top)).of_perm added
  · rw [if_neg known] at added
    exact (chosenBelow.raise.cons known bounded).of_perm added

section Indices

theorem chooseInPlace_chosenBelow {total amount : Nat} (enough : amount ≤ total) (source : σ) :
    ChosenBelow total amount (chooseInPlace total amount source).1 := by
  have swapped := openingSwaps_perm amount 0 (Array.range total) source
  rw [Array.toList_range] at swapped
  have opening := List.take_sublist amount
    (openingSwaps amount 0 (Array.range total) source).1.toList
  constructor
  · exact (swapped.nodup_iff.mpr List.nodup_range).sublist opening
  · intro index member
    exact List.mem_range.mp (swapped.mem_iff.mp (opening.subset member))
  · have length := swapped.length_eq
    rw [List.length_range] at length
    show (List.take _ _).length = amount
    rw [List.length_take, length, Nat.min_eq_left enough]

theorem filterMap_getElem?_range (items : List α) :
    (List.range items.length).filterMap (items[·]?) = items := by
  induction items with
  | nil => rfl
  | cons item rest ih => simp [List.range_succ_eq_map, List.filterMap_map, ih]

/-- Different indices stand for different items. -/
theorem filterMap_getElem?_subperm {items : List α} {amount : Nat} {indices : List Nat}
    (chosenBelow : ChosenBelow items.length amount indices) :
    indices.filterMap (items[·]?) <+~ items := by
  have among : indices <+~ List.range items.length :=
    List.subperm_of_subset chosenBelow.nodup fun index member =>
      List.mem_range.mpr (chosenBelow.below index member)
  obtain ⟨kept, same, inside⟩ := among
  refine ⟨kept.filterMap (items[·]?), same.filterMap _, ?_⟩
  have sublist := inside.filterMap (items[·]?)
  rwa [filterMap_getElem?_range] at sublist

theorem length_filterMap_getElem? {items : List α} {amount : Nat} {indices : List Nat}
    (chosenBelow : ChosenBelow items.length amount indices) :
    (indices.filterMap (items[·]?)).length = amount := by
  rw [List.filterMap_length_eq_length.mpr, chosenBelow.length]
  intro index member
  simpa using chosenBelow.below index member

end Indices

section Choosing

section Floyd

variable (bounded : IsBounded σ)

include bounded

theorem floydSteps_chosenBelow (ordered : Bool) (count : Nat) {top amount : Nat}
    {chosen : List Nat} (chosenBelow : ChosenBelow top amount chosen) (source : σ) :
    ChosenBelow (top + count) (amount + count) (floydSteps ordered count top chosen source).1 := by
  induction count generalizing top amount chosen source with
  | zero => exact chosenBelow
  | succ count ih =>
      rcases draw : Draws.below (top + 1) source with ⟨drawn, later⟩
      have inside : drawn < top + 1 := by
        have drawnBelow := bounded (top + 1) source (Nat.succ_pos top)
        rwa [draw] at drawnBelow
      have further := ih (chosenBelow.addDrawn ordered inside) later
      rw [Nat.add_right_comm top, Nat.add_right_comm amount] at further
      rw [floydSteps, draw]
      exact further

theorem chooseFloyd_chosenBelow {total amount : Nat} (enough : amount ≤ total) (source : σ) :
    ChosenBelow total amount (chooseFloyd total amount source).1 := by
  have steps := floydSteps_chosenBelow bounded (decide (amount < 50)) amount
    (.none (total - amount)) source
  rw [Nat.sub_add_cancel enough, Nat.zero_add] at steps
  rcases chose : floydSteps (decide (amount < 50)) amount (total - amount) [] source with
    ⟨chosen, later⟩
  rw [chose] at steps
  simp only [chooseFloyd, chose]
  split
  · exact steps
  · exact steps.of_perm (shuffle_perm chosen later)

end Floyd

theorem freshSteps_chosenBelow (fresh : FindsFresh σ) {total : Nat} (count : Nat) {amount : Nat}
    {chosen : List Nat} (chosenBelow : ChosenBelow total amount chosen)
    (enough : amount + count ≤ total) (source : σ) :
    ChosenBelow total (amount + count) (freshSteps total count chosen source).1 := by
  induction count generalizing amount chosen source with
  | zero => exact chosenBelow
  | succ count ih =>
      rcases draw : Draws.fresh total chosen source with ⟨drawn, later⟩
      obtain ⟨inside, untaken⟩ := fresh total chosen source (chosenBelow.exists_left (by omega))
      rw [draw] at inside untaken
      have added : ChosenBelow total (amount + 1) (chosen ++ [drawn]) :=
        (chosenBelow.cons untaken inside).of_perm (List.perm_append_singleton drawn chosen)
      have further := ih added (by omega) later
      rw [Nat.add_right_comm amount] at further
      rw [freshSteps, draw]
      exact further

theorem chooseByRejection_chosenBelow (fresh : FindsFresh σ) {total amount : Nat}
    (enough : amount ≤ total) (source : σ) :
    ChosenBelow total amount (chooseByRejection total amount source).1 := by
  have within : 0 + amount ≤ total := by rwa [Nat.zero_add]
  have steps := freshSteps_chosenBelow fresh amount (.none total) within source
  rwa [Nat.zero_add] at steps

section Rejection

/-- The unit of the last of 24 binary digits is a small part of a number, or the number has no more
digits than these. -/
theorem unit_small (n : Nat) :
    (1 <<< 23) * (1 <<< (n.log2 - 23)) ≤ n ∨ 1 <<< (n.log2 - 23) = 1 := by
  simp only [Nat.one_shiftLeft]
  rcases Nat.le_total 23 n.log2 with large | small
  · have positive : n ≠ 0 := by
      rintro rfl
      simp at large
    rw [← Nat.pow_add, Nat.add_sub_cancel' large]
    exact .inl (Nat.log2_self_le positive)
  · rw [Nat.sub_eq_zero_of_le small]
    exact .inr rfl

/-- Rounding changes a number by at most one part in `2 ^ 23`. -/
theorem single_near (n : Nat) :
    single n <<< 23 ≤ n <<< 23 + n ∧ n <<< 23 ≤ single n <<< 23 + n := by
  have unit := unit_small n
  have positive : 0 < 1 <<< (n.log2 - 23) := by
    rw [Nat.one_shiftLeft]
    exact Nat.two_pow_pos _
  simp only [single]
  generalize 1 <<< (n.log2 - 23) = scale at unit positive
  have whole := Nat.div_add_mod' n scale
  have rest := Nat.mod_lt n positive
  rcases unit with small | rfl
  · split
    · omega
    · rw [Nat.add_one_mul (n / scale)]
      omega
  · simp only [Nat.mod_one, Nat.div_one]
    simp

/-- In the precision in which it is reckoned, 36 times as many are still enough. -/
theorem small_of_not_isLargePart {total amount : Nat} (large : isLargePart total amount = false) :
    270 * amount ≤ total ∨ 500000 ≤ total ∧ 36 * amount ≤ total := by
  unfold isLargePart at large
  split at large
  · exact .inl (by simpa using large)
  next many =>
    have few : single (9611947 * single amount) ≤ single total <<< 18 := by simpa using large
    obtain ⟨above, _⟩ := single_near total
    obtain ⟨_, below⟩ := single_near amount
    obtain ⟨_, belowToo⟩ := single_near (9611947 * single amount)
    exact .inr ⟨by omega, by omega⟩

/-- Indices are drawn again only if few of very many are wanted. -/
theorem small_of_rejection {total amount : Nat} (rejection : strategy total amount = .rejection) :
    UInt32.size ≤ total ∨
      163 ≤ amount ∧ (270 * amount ≤ total ∨ 500000 ≤ total ∧ 36 * amount ≤ total) := by
  unfold strategy at rejection
  split at rejection
  next beyond => exact .inl beyond
  next =>
    split at rejection
    next => split at rejection <;> cases rejection
    next many =>
      split at rejection
      next => cases rejection
      next small => exact .inr ⟨Nat.not_lt.mp many, small_of_not_isLargePart (by simpa using small)⟩

end Rejection

/-- What a source has to do so that `amount` of `total` indices can be chosen. -/
structure Serves (σ : Type) [Draws σ] (total amount : Nat) : Prop where
  bounded : IsBounded σ
  fresh : strategy total amount = .rejection → FindsFresh σ

theorem Serves.chosenBelow {total amount : Nat} (serves : Serves σ total amount)
    (enough : amount ≤ total) (source : σ) :
    ChosenBelow total amount (chooseIndices total amount source).1 := by
  unfold chooseIndices
  split
  next => exact chooseFloyd_chosenBelow serves.bounded enough source
  next => exact chooseInPlace_chosenBelow enough source
  next rejection => exact chooseByRejection_chosenBelow (serves.fresh rejection) enough source

section Items

variable {items : List α} {amount : Nat}

/-- No item is chosen more often than it is there. -/
theorem choose_subperm (serves : Serves σ items.length (min amount items.length)) (source : σ) :
    (choose items amount source).1 <+~ items :=
  filterMap_getElem?_subperm (serves.chosenBelow (Nat.min_le_right amount items.length) source)

theorem length_choose (serves : Serves σ items.length (min amount items.length)) (source : σ) :
    (choose items amount source).1.length = min amount items.length :=
  length_filterMap_getElem? (serves.chosenBelow (Nat.min_le_right amount items.length) source)

end Items

end Choosing

theorem mem_of_mem_choose {items : List α} {amount : Nat} {source : σ} {item : α}
    (chosen : item ∈ (choose items amount source).1) : item ∈ items := by
  obtain ⟨index, _, found⟩ := List.mem_filterMap.mp chosen
  exact List.mem_of_getElem? found

end SentenceCards.Dealing
