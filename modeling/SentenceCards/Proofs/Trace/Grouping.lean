import Mathlib.Data.List.Dedup
import Mathlib.Data.List.Destutter
import SentenceCards.Proofs.Trace.Window

/-!
# Records of one attempt

A summary counts the runs of neighbouring records that belong to one attempt.  There is a run for
each attempt as long as the records of every attempt stand together, and otherwise there are more
runs than attempts (`attempts_counted_iff_together`).  Records whose attempts never decrease stand
together.
-/

namespace SentenceCards.Trace

section Together

variable {α : Type} {has : α → Bool} {first second : α} {items rest : List α}

/-- The items that have the property stand together: when the first of them have ended, no more of
them follow. -/
def Together (has : α → Bool) (items : List α) : Prop :=
  ∀ item ∈ (items.dropWhile (! has ·)).dropWhile has, has item = false

theorem together_of_absent (absent : ∀ item ∈ items, has item = false) : Together has items := by
  intro item later
  have sublist := (List.dropWhile_sublist has).trans
    (List.dropWhile_sublist (l := items) (! has ·))
  exact absent item (sublist.mem later)

theorem together_cons_of_pos (here : has first = true) :
    Together has (first :: rest) ↔ ∀ item ∈ rest.dropWhile has, has item = false := by
  rw [Together, List.dropWhile_cons_of_neg (by simp [here]), List.dropWhile_cons_of_pos here]

theorem together_cons_of_neg (lacks : has first = false) :
    Together has (first :: rest) ↔ Together has rest := by
  rw [Together, List.dropWhile_cons_of_pos (by simp [lacks]), Together]

theorem together_singleton : Together has [first] := by
  cases here : has first with
  | false => exact together_of_absent (by simpa using here)
  | true => simp [together_cons_of_pos here]

theorem together_cons_cons_of_eq (same : has first = has second) :
    Together has (first :: second :: rest) ↔ Together has (second :: rest) := by
  cases here : has first with
  | false => exact together_cons_of_neg here
  | true =>
      rw [here] at same
      rw [together_cons_of_pos here, List.dropWhile_cons_of_pos same.symm,
        together_cons_of_pos same.symm]

theorem together_cons_cons_of_ends (here : has first = true) (ends : has second = false) :
    Together has (first :: second :: rest) ↔ ∀ item ∈ second :: rest, has item = false := by
  rw [together_cons_of_pos here, List.dropWhile_cons_of_neg (by simp [ends])]

/-- Those that have the property are a block of the items just if they stand together. -/
theorem together_iff_filter_isInfix : Together has items ↔ items.filter has <:+: items := by
  constructor
  · intro together
    let front := items.takeWhile (! has ·)
    let onward := items.dropWhile (! has ·)
    have whole : front ++ (onward.takeWhile has ++ onward.dropWhile has) = items := by
      rw [List.takeWhile_append_dropWhile, List.takeWhile_append_dropWhile]
    have before : front.filter has = [] := by
      rw [List.filter_eq_nil_iff]
      intro item member
      simpa using List.mem_takeWhile_imp member
    have block : (onward.takeWhile has).filter has = onward.takeWhile has :=
      List.filter_eq_self.mpr fun item member => List.mem_takeWhile_imp member
    have after : (onward.dropWhile has).filter has = [] := by
      rw [List.filter_eq_nil_iff]
      intro item member
      rw [together item member]
      exact Bool.false_ne_true
    have filtered : items.filter has = onward.takeWhile has := by
      rw [← whole, List.filter_append, List.filter_append, before, block, after, List.append_nil,
        List.nil_append]
    rw [filtered]
    exact ⟨front, onward.dropWhile has, by rw [List.append_assoc, whole]⟩
  · rintro ⟨front, back, whole⟩
    -- The block has all the items with the property, so none are left for the ends.
    have counted : front.countP has + (items.countP has + back.countP has) = items.countP has := by
      simpa [List.countP_filter] using congrArg (List.countP has) whole
    have before : ∀ item ∈ front, ¬ has item = true := by
      rw [← List.countP_eq_zero]
      omega
    have after : ∀ item ∈ back, ¬ has item = true := by
      rw [← List.countP_eq_zero]
      omega
    have block : ∀ item ∈ items.filter has, has item = true := fun _ => List.of_mem_filter
    rw [← whole, List.append_assoc]
    generalize items.filter has = kept at block
    unfold Together
    rw [List.dropWhile_append_of_pos (by simpa using before)]
    cases kept with
    | nil => exact together_of_absent (by simpa using after)
    | cons first others =>
        rw [List.cons_append, List.dropWhile_cons_of_neg (by simp [block first]),
          ← List.cons_append, List.dropWhile_append_of_pos block]
        intro item later
        simpa using after item ((List.dropWhile_sublist has).mem later)

end Together

/-- The record belongs to the attempt. -/
def Record.isOf (attempt : Nat) (record : Record) : Bool := record.attempt == attempt

section Runs

variable {first second : Record} {records rest : List Record} {attempt : Nat}

theorem Record.isOf_iff : first.isOf attempt = true ↔ first.attempt = attempt := beq_iff_eq

theorem Record.isOf_eq_false_iff : first.isOf attempt = false ↔ first.attempt ≠ attempt :=
  beq_eq_false_iff_ne

theorem absent_iff_not_mem :
    (∀ record ∈ records, record.isOf attempt = false) ↔
      attempt ∉ records.map Record.attempt := by
  simp [Record.isOf_eq_false_iff]

/-- Where another attempt begins, the attempt of the record before must be over. -/
theorem together_cons_cons_of_ne (different : first.attempt ≠ second.attempt) :
    Together (Record.isOf attempt) (first :: second :: rest) ↔
      if first.attempt = attempt then attempt ∉ (second :: rest).map Record.attempt
      else Together (Record.isOf attempt) (second :: rest) := by
  split
  · next here =>
      have ends : second.isOf attempt = false :=
        Record.isOf_eq_false_iff.mpr fun there => different (here.trans there.symm)
      rw [together_cons_cons_of_ends (Record.isOf_iff.mpr here) ends, absent_iff_not_mem]
  · next elsewhere => exact together_cons_of_neg (Record.isOf_eq_false_iff.mpr elsewhere)

theorem together_of_sorted (sorted : (records.map Record.attempt).Pairwise (· ≤ ·)) :
    Together (Record.isOf attempt) records := by
  induction records with
  | nil => exact together_of_absent (by simp)
  | cons first rest ih =>
      rw [List.map_cons, List.pairwise_cons] at sorted
      obtain ⟨least, sorted⟩ := sorted
      cases rest with
      | nil => exact together_singleton
      | cons second others =>
          by_cases same : first.attempt = second.attempt
          · rw [together_cons_cons_of_eq (by rw [Record.isOf, same, Record.isOf])]
            exact ih sorted
          · rw [together_cons_cons_of_ne same]
            split
            · next here =>
                -- All the attempts that follow are later than this one.
                intro again
                rw [List.map_cons, List.pairwise_cons] at sorted
                have next := least second.attempt List.mem_cons_self
                rcases List.mem_cons.mp again with there | further
                · exact same (here.trans there)
                · have := sorted.1 attempt further
                  omega
            · exact ih sorted

end Runs

namespace Window

variable (records : List Record)

theorem attemptRuns_eq_length_destutter :
    attemptRuns records = ((records.map Record.attempt).destutter (· ≠ ·)).length := by
  fun_induction attemptRuns records with
  | case1 => rfl
  | case2 => rfl
  | case3 first second rest ih =>
      simp only [ih, List.map_cons, List.destutter_cons_cons]
      split
      · next same => simp [same, List.destutter_cons']
      · next different => simp [List.destutter_cons', Nat.add_comm]

theorem distinct_le_attemptRuns :
    (records.map Record.attempt).dedup.length ≤ attemptRuns records := by
  fun_induction attemptRuns records with
  | case1 => exact Nat.le_refl _
  | case2 => exact Nat.le_refl _
  | case3 first second rest ih =>
      rw [List.map_cons]
      split
      · next same =>
          rw [List.dedup_cons_of_mem (by simp [same]), Nat.zero_add]
          exact ih
      · next different =>
          by_cases again : first.attempt ∈ (second :: rest).map Record.attempt
          · rw [List.dedup_cons_of_mem again]
            omega
          · rw [List.dedup_cons_of_notMem again, List.length_cons]
            omega

theorem attemptRuns_eq_distinct_iff :
    attemptRuns records = (records.map Record.attempt).dedup.length ↔
      ∀ attempt, Together (Record.isOf attempt) records := by
  fun_induction attemptRuns records with
  | case1 => exact ⟨fun _ _ => together_of_absent (by simp), fun _ => rfl⟩
  | case2 => exact ⟨fun _ _ => together_singleton, fun _ => rfl⟩
  | case3 first second rest ih =>
      have fewer := distinct_le_attemptRuns (second :: rest)
      rw [List.map_cons]
      split
      · next same =>
          rw [List.dedup_cons_of_mem (by simp [same]), Nat.zero_add, ih]
          refine forall_congr' fun attempt => ?_
          rw [together_cons_cons_of_eq (by rw [Record.isOf, same, Record.isOf])]
      · next different =>
          simp only [together_cons_cons_of_ne different]
          by_cases again : first.attempt ∈ (second :: rest).map Record.attempt
          · rw [List.dedup_cons_of_mem again]
            constructor
            · intro same
              omega
            · intro together
              have ended := together first.attempt
              rw [if_pos rfl] at ended
              exact absurd again ended
          · rw [List.dedup_cons_of_notMem again, List.length_cons, Nat.add_comm 1,
              Nat.add_right_cancel_iff, ih]
            refine forall_congr' fun attempt => ?_
            split
            · next here =>
                subst here
                refine ⟨fun _ => again, fun _ => together_of_absent ?_⟩
                exact absent_iff_not_mem.mpr again
            · rfl

/-- The summary counts the runs of neighbouring records of one attempt.  There are never fewer of
them than different attempts, and just as many when the records of every attempt are a block of the
window. -/
theorem attempts_counted_iff_together (window : Window) :
    let attempts := window.records.map Record.attempt
    window.summary.attemptCount = (attempts.destutter (· ≠ ·)).length ∧
      attempts.dedup.length ≤ window.summary.attemptCount ∧
      (window.summary.attemptCount = attempts.dedup.length ↔
        ∀ attempt, window.ofAttempt attempt <:+: window.records) := by
  intro attempts
  refine ⟨attemptRuns_eq_length_destutter _, distinct_le_attemptRuns _, ?_⟩
  rw [show window.summary.attemptCount = attemptRuns window.records from rfl,
    attemptRuns_eq_distinct_iff]
  exact forall_congr' fun _ => together_iff_filter_isInfix

/-- An attempt that comes back after another one is counted again. -/
theorem returning_attempt_counted_again :
    let event := Event.custom "card" "turned"
    let window := ((empty 10).changeAll [.push 1 0 event, .push 2 0 event, .push 1 0 event]).2
    window.summary.attemptCount = 3 ∧ (window.records.map Record.attempt).dedup.length = 2 := by
  decide

end Window

end SentenceCards.Trace
