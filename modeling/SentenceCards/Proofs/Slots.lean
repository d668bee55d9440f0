import Mathlib.Data.List.Perm.Basic
import Mathlib.Data.List.TakeWhile
import SentenceCards.Slots

/-!
# The cards in the slots

Filling and emptying a slot changes the placed cards by this one card, and a sentence without a
gap is made of all of them.  Where the placed cards stand in front of all empty slots, no card is
left out of the sentence; otherwise there is a gap, and so an empty slot
(`length_leading_eq_iff`, `emptyCount_pos`).
-/

namespace SentenceCards

namespace Slots

theorem leading_eq_placed_of_length {slots : Slots}
    (same : slots.leading.length = slots.placed.length) : slots.leading = slots.placed := by
  obtain ⟨cells⟩ := slots
  have opening : ((cells.takeWhile Option.isSome).filterMap id).Sublist (cells.filterMap id) :=
    (List.takeWhile_sublist Option.isSome).filterMap id
  exact opening.eq_of_length same

theorem leading_eq_placed_of_isComplete {slots : Slots} (complete : slots.isComplete = true) :
    slots.leading = slots.placed := by
  have whole : slots.cells.takeWhile Option.isSome = slots.cells :=
    List.takeWhile_eq_self_iff.mpr (List.all_eq_true.mp complete)
  simp only [leading, placed, whole]

theorem placed_empty (count : Nat) : (empty count).placed = [] := by
  simp [placed, empty]

theorem size_empty (count : Nat) : (empty count).size = count := by
  simp [size, empty]

/-- The placed cards stand in the first slots, and the slots after them are empty. -/
def InFront (slots : Slots) : Prop :=
  ∃ spare, slots.cells = slots.placed.map some ++ List.replicate spare none

section Laid

variable (cards : List Card) (spare : Nat)

/-- Cards in the first slots, and no others, are the sentence so far and all that is placed. -/
theorem placed_laid : placed ⟨cards.map some ++ List.replicate spare none⟩ = cards := by
  simp [placed, List.filterMap_map]

theorem leading_laid : leading ⟨cards.map some ++ List.replicate spare none⟩ = cards := by
  have none : (List.replicate spare (none : Option Card)).takeWhile Option.isSome = [] := by
    cases spare <;> simp [List.replicate_succ]
  rw [leading, List.takeWhile_append_of_pos (by simp), none]
  simp [List.filterMap_map]

end Laid

theorem isComplete_iff {slots : Slots} :
    slots.isComplete = true ↔ ∀ cell ∈ slots.cells, cell.isSome = true :=
  List.all_eq_true

theorem cells_of_placed_eq_nil {slots : Slots} (nothing : slots.placed = []) :
    slots.cells = List.replicate slots.size none := by
  refine List.eq_replicate_iff.mpr ⟨rfl, ?_⟩
  intro cell member
  cases cell with
  | none => rfl
  | some card =>
      have inside : card ∈ slots.placed := List.mem_filterMap.mpr ⟨some card, member, rfl⟩
      rw [nothing] at inside
      exact absurd inside List.not_mem_nil

/-- The sentence so far has all placed cards exactly if they stand in front. -/
theorem length_leading_eq_iff {slots : Slots} :
    slots.leading.length = slots.placed.length ↔ slots.InFront := by
  constructor
  · intro same
    obtain ⟨cells⟩ := slots
    induction cells with
    | nil => exact ⟨0, rfl⟩
    | cons cell rest ih =>
        cases cell with
        | none =>
            -- After a gap nothing belongs to the sentence, so nothing is placed.
            have nothing : placed ⟨none :: rest⟩ = [] := List.length_eq_zero_iff.mp same.symm
            refine ⟨rest.length + 1, (cells_of_placed_eq_nil nothing).trans ?_⟩
            rw [nothing]
            rfl
        | some card =>
            obtain ⟨spare, split⟩ := ih (by simpa [leading, placed] using same)
            exact ⟨spare, congrArg (some card :: ·) split⟩
  · rintro ⟨spare, split⟩
    have whole := leading_laid slots.placed spare
    rw [← split] at whole
    exact congrArg List.length whole

theorem emptyCount_pos {slots : Slots} (gapped : slots.isComplete = false) :
    1 ≤ slots.emptyCount := by
  obtain ⟨cell, member, free⟩ := List.all_eq_false.mp gapped
  exact List.countP_pos_iff.mpr ⟨cell, member, by simpa using free⟩

theorem placed_fill_perm {cells : List (Option Card)} {slot : Nat}
    (free : cells[slot]? = some none) (card : Card) :
    (placed ⟨cells.set slot (some card)⟩).Perm (card :: placed ⟨cells⟩) := by
  induction cells generalizing slot with
  | nil => simp at free
  | cons cell rest ih =>
      cases slot with
      | zero =>
          obtain rfl : cell = none := by simpa using free
          simp [placed]
      | succ slot =>
          have later : (placed ⟨rest.set slot (some card)⟩).Perm (card :: placed ⟨rest⟩) :=
            ih (by simpa using free)
          cases cell with
          | none => simpa [placed] using later
          | some other =>
              simp only [placed, List.set_cons_succ, id] at later ⊢
              exact (later.cons other).trans (List.Perm.swap card other _)

theorem placed_vacate_perm {cells : List (Option Card)} {slot : Nat} {card : Card}
    (filled : cells[slot]? = some (some card)) :
    (placed ⟨cells⟩).Perm (card :: placed ⟨cells.set slot none⟩) := by
  obtain ⟨inside, content⟩ := List.getElem?_eq_some_iff.mp filled
  have free : (cells.set slot none)[slot]? = some none := by simp [inside]
  have refilled := placed_fill_perm free card
  rwa [List.set_set, ← content, List.set_getElem_self] at refilled

end Slots

end SentenceCards

