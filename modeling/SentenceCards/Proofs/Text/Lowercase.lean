import SentenceCards.Text.Blank
import SentenceCards.Text.Lowercase

/-!
# What lower case leaves as it is

Spaces, punctuation and digits, the characters from `' '` up to `'@'`, have no letter case.  The
lower-case form of a text has as many of each as the text itself.  White space stays white space
and nothing else becomes any.  What stands before a space is put in lower case as if it stood alone
(`lowerFrom_append_space`).
-/

namespace SentenceCards.Text

/-- Comes after the control characters and before the letters. -/
def BelowLetters (c : Char) : Prop := 0x20 ≤ c.toNat ∧ c.toNat < 0x41

instance (c : Char) : Decidable (BelowLetters c) :=
  inferInstanceAs (Decidable (0x20 ≤ c.toNat ∧ c.toNat < 0x41))

/-- The ranges of white space. -/
def blankRanges : List (Nat × Nat) :=
  [(0x9, 0xD), (0x20, 0x20), (0x85, 0x85), (0xA0, 0xA0), (0x1680, 0x1680), (0x2000, 0x200A),
    (0x2028, 0x2028), (0x2029, 0x2029), (0x202F, 0x202F), (0x205F, 0x205F), (0x3000, 0x3000)]

theorem isBlank_eq (c : Char) : isBlank c = inRanges blankRanges c.toNat := by
  simp only [isBlank, inRanges, blankRanges, List.any_cons, List.any_nil, Bool.or_false]
  grind

theorem toNat_ofNat_eq_or (n : Nat) : (Char.ofNat n).toNat = n ∨ (Char.ofNat n).toNat = 0 := by
  by_cases valid : n.isValidChar
  · left
    rw [Char.ofNat, dif_pos valid]
    rfl
  · right
    rw [Char.ofNat, dif_neg valid]
    rfl

/-- Letters come after everything without case, also those that a mapping leads to. -/
theorem letters_le_lowerRuns :
    ∀ run ∈ lowerRuns, 0x41 ≤ run.first ∧ 0x41 ≤ run.first + run.shift := by decide +kernel

/-- No mapping has to do with white space. -/
theorem blankRanges_apart_lowerRuns : ∀ run ∈ lowerRuns, ∀ range ∈ blankRanges,
    (run.last < range.1 ∨ range.2 < run.first) ∧
      (run.last + run.shift < range.1 ∨ range.2 < run.first + run.shift) := by decide +kernel

theorem CaseRun.bounds_of_map? {run : CaseRun} {n mapped : Nat}
    (maps : run.map? n = some mapped) :
    run.first ≤ n ∧ n ≤ run.last ∧ mapped = (n + run.shift).toNat := by
  unfold CaseRun.map? at maps
  split at maps
  next inside => exact ⟨inside.1, inside.2.1, (Option.some.inj maps).symm⟩
  next => cases maps

/-- A character stays as it is, or one of the runs maps it. -/
theorem exists_run_of_lowerChar (c : Char) :
    lowerChar c = c ∨
      ∃ run ∈ lowerRuns, ∃ mapped, run.map? c.toNat = some mapped ∧
        lowerChar c = Char.ofNat mapped := by
  unfold lowerChar
  split
  next ascii =>
    split
    next upper =>
      -- The first run is that of the ASCII letters.
      have first : 0x41 ≤ c.toNat := upper.1
      have last : c.toNat ≤ 0x5A := upper.2
      refine .inr ⟨⟨0x41, 0x5A, 1, 32⟩, List.mem_cons_self, c.toNat + 32, ?_, rfl⟩
      simp [CaseRun.map?, first, last, Nat.mod_one]
      omega
    next => exact .inl rfl
  next wide =>
    split
    next mapped found =>
      obtain ⟨run, listed, maps⟩ := List.exists_of_findSome?_eq_some found
      exact .inr ⟨run, listed, mapped, maps, rfl⟩
    next => exact .inl rfl

/-- A character stays as it is, or it is a letter and becomes one. -/
theorem lowerChar_eq_or (c : Char) :
    lowerChar c = c ∨ ¬ BelowLetters c ∧ ¬ BelowLetters (lowerChar c) := by
  rcases exists_run_of_lowerChar c with same | ⟨run, listed, mapped, maps, becomes⟩
  · exact .inl same
  · obtain ⟨first, _, shifted⟩ := CaseRun.bounds_of_map? maps
    have high := letters_le_lowerRuns run listed
    right
    rw [becomes, BelowLetters, BelowLetters]
    rcases toNat_ofNat_eq_or mapped with same | zero <;> omega

theorem isBlank_eq_false_of_apart {c : Char}
    (apart : ∀ range ∈ blankRanges, c.toNat < range.1 ∨ range.2 < c.toNat) : isBlank c = false := by
  rw [isBlank_eq, inRanges, List.any_eq_false]
  intro range listed inside
  have outside := apart range listed
  simp only [Bool.and_eq_true, decide_eq_true_eq] at inside
  omega

theorem isBlank_lowerChar (c : Char) : isBlank (lowerChar c) = isBlank c := by
  rcases exists_run_of_lowerChar c with same | ⟨run, listed, mapped, maps, becomes⟩
  · rw [same]
  · obtain ⟨first, last, shifted⟩ := CaseRun.bounds_of_map? maps
    have before : isBlank c = false := by
      apply isBlank_eq_false_of_apart
      intro range member
      have apart := (blankRanges_apart_lowerRuns run listed range member).1
      omega
    have after : isBlank (Char.ofNat mapped) = false := by
      rcases toNat_ofNat_eq_or mapped with same | zero
      · apply isBlank_eq_false_of_apart
        intro range member
        have apart := (blankRanges_apart_lowerRuns run listed range member).2
        have high := (letters_le_lowerRuns run listed).2
        omega
      · rw [isBlank_eq, zero]
        decide
    rw [becomes, before, after]

/-- A character becomes characters that are white space if it is and none if it is not. -/
theorem isBlank_of_mem_lowerBetween {before after : List Char} {c d : Char}
    (member : d ∈ lowerBetween before c after) : isBlank d = isBlank c := by
  unfold lowerBetween at member
  split at member
  next sigma =>
    subst sigma
    have capital : isBlank 'Σ' = false := by decide +kernel
    have small : isBlank 'σ' = false := by decide +kernel
    have final : isBlank 'ς' = false := by decide +kernel
    split at member
    · rw [List.mem_singleton.mp member, final, capital]
    · rw [List.mem_singleton.mp member, small, capital]
  next =>
    split at member
    next dotted =>
      subst dotted
      have capital : isBlank 'İ' = false := by decide +kernel
      have small : isBlank 'i' = false := by decide +kernel
      have dot : isBlank (Char.ofNat 0x307) = false := by decide +kernel
      simp only [List.mem_cons, List.not_mem_nil, or_false] at member
      rcases member with rfl | rfl
      · rw [small, capital]
      · rw [dot, capital]
    next =>
      rw [List.mem_singleton.mp member]
      exact isBlank_lowerChar c

theorem lowerBetween_ne_nil (before : List Char) (c : Char) (after : List Char) :
    lowerBetween before c after ≠ [] := by
  unfold lowerBetween
  split
  · split <;> simp
  · split <;> simp

section Space

variable (before text rest : List Char)

theorem meetsCased_append_space : meetsCased (text ++ ' ' :: rest) = meetsCased text := by
  induction text with
  | nil =>
      have counts : isCaseIgnorable ' ' = false := by decide +kernel
      have uncased : isCased ' ' = false := by decide +kernel
      simp [meetsCased, counts, uncased]
  | cons c more ih => rw [List.cons_append, meetsCased, meetsCased, ih]

theorem lowerBetween_append_space (c : Char) :
    lowerBetween before c (text ++ ' ' :: rest) = lowerBetween before c text := by
  rw [lowerBetween, lowerBetween, meetsCased_append_space]

/-- A space ends the neighbourhood that the lower-case form of a character depends on. -/
theorem lowerFrom_append_space :
    lowerFrom before (text ++ ' ' :: rest) =
      lowerFrom before text ++ ' ' :: lowerFrom (' ' :: (text.reverse ++ before)) rest := by
  induction text generalizing before with
  | nil => rfl
  | cons c more ih =>
      rw [List.cons_append, lowerFrom, lowerFrom, ih, lowerBetween_append_space]
      simp

end Space

variable {p : Char → Bool} (below : ∀ c, p c = true → BelowLetters c)

include below

theorem countP_lowerChar (c : Char) : [lowerChar c].countP p = [c].countP p := by
  rcases lowerChar_eq_or c with same | ⟨before, after⟩
  · rw [same]
  · have unmarked : p c = false := Bool.eq_false_iff.mpr fun marked => before (below c marked)
    have stays : p (lowerChar c) = false :=
      Bool.eq_false_iff.mpr fun marked => after (below _ marked)
    simp [unmarked, stays]

theorem countP_lowerBetween (before : List Char) (c : Char) (after : List Char) :
    (lowerBetween before c after).countP p = [c].countP p := by
  have letter : ∀ d, ¬ BelowLetters d → p d = false :=
    fun d high => Bool.eq_false_iff.mpr fun marked => high (below d marked)
  unfold lowerBetween
  split
  next sigma =>
    subst sigma
    have capital : p 'Σ' = false := letter _ (by decide +kernel)
    have small : p 'σ' = false := letter _ (by decide +kernel)
    have final : p 'ς' = false := letter _ (by decide +kernel)
    split <;> simp [capital, small, final]
  next =>
    split
    next dotted =>
      subst dotted
      have capital : p 'İ' = false := letter _ (by decide +kernel)
      have small : p 'i' = false := letter _ (by decide +kernel)
      have dot : p (Char.ofNat 0x307) = false := letter _ (by decide +kernel)
      simp [capital, small, dot]
    next => exact countP_lowerChar below c

theorem countP_lowerFrom (before text : List Char) :
    (lowerFrom before text).countP p = text.countP p := by
  induction text generalizing before with
  | nil => rfl
  | cons c after ih =>
      rw [lowerFrom, List.countP_append, countP_lowerBetween below, ih, ← List.countP_append]
      rfl

theorem countP_lowercase (text : String) :
    (lowercase text).toList.countP p = text.toList.countP p := by
  rw [lowercase, String.toList_ofList]
  exact countP_lowerFrom below [] text.toList

end SentenceCards.Text
