import SentenceCards.Grammar.Judgement

/-!
# How sentences are decided

Every pattern either rejects a sentence by a check, whatever the target is, or reads it and then
compares it with the target (`Decides`).  What is common to all verdicts follows from these two
cases.
-/

namespace SentenceCards

namespace Check

variable {checks : List Check} (reading : Reading) (cards : List Card)

theorem judge_of_passed (passed : checks.find? (!·.passes) = none) :
    judge checks reading cards = reading.verdict cards := by
  funext target
  rw [judge, passed]

theorem judge_of_stopped {check : Check} (stopped : checks.find? (!·.passes) = some check) :
    judge checks reading cards = fun _ => check.rejection := by
  funext target
  rw [judge, stopped]

end Check

namespace Reading

/-- The reading translates the cards and says of each what its word is for. -/
structure Covers (reading : Reading) (cards : List Card) : Prop where
  translated : reading.translation ≠ ""
  words : reading.roles.map Role.word = cards.map Card.surface

variable (reading : Reading) (cards : List Card) (target : Option Target)

/-- The target decides on nothing but whether the sentence is correct. -/
theorem outcome_verdict :
    (reading.verdict cards target).outcome =
      .accepted (target.all fun asked => decide (sentence cards = asked.normalized))
        reading.translation reading.roles := by
  cases target with
  | none => rfl
  | some asked =>
      by_cases same : sentence cards = asked.normalized
      · simp [verdict, same]
      · simp [verdict, same]

@[simp] theorem valid_verdict : (reading.verdict cards target).valid = true := by
  simp [Verdict.valid, outcome_verdict]

@[simp] theorem gate?_verdict : (reading.verdict cards target).gate? = none := by
  simp [Verdict.gate?, outcome_verdict]

@[simp] theorem translation_verdict :
    (reading.verdict cards target).translation = reading.translation := by
  simp [Verdict.translation, outcome_verdict]

@[simp] theorem roles_verdict : (reading.verdict cards target).roles = reading.roles := by
  simp [Verdict.roles, outcome_verdict]

theorem correct_verdict :
    (reading.verdict cards target).correct =
      target.all fun asked => decide (sentence cards = asked.normalized) := by
  simp [Verdict.correct, outcome_verdict]

theorem tone_verdict :
    (reading.verdict cards target).feedback.tone =
      if (reading.verdict cards target).correct then .success else .warning := by
  rw [correct_verdict]
  cases target with
  | none => rfl
  | some asked =>
      by_cases same : sentence cards = asked.normalized
      · simp [verdict, same]
      · simp [verdict, same]

theorem natural_verdict :
    (reading.verdict cards target).feedback.natural = (reading.verdict cards target).correct := by
  rw [correct_verdict]
  cases target with
  | none => rfl
  | some asked =>
      by_cases same : sentence cards = asked.normalized
      · simp [verdict, same]
      · simp [verdict, same]

end Reading

/-- A judgement of cards that rejects them for every target, or reads them and looks at the
target afterwards. -/
inductive Decides (cards : List Card) : (Option Target → Verdict) → Prop where
  | rejects (check : Check) : Decides cards fun _ => check.rejection
  | reads {reading : Reading} (covers : reading.Covers cards) :
      Decides cards (reading.verdict cards)

namespace Decides

variable {cards : List Card} {judge : Option Target → Verdict}

theorem correct_iff {target : Target} (decides : Decides cards judge)
    (valid : (judge (some target)).valid = true) :
    (judge (some target)).correct = true ↔ sentence cards = target.normalized := by
  cases decides with
  | rejects check => exact absurd valid Bool.false_ne_true
  | @reads reading covers => simp [reading.correct_verdict]

/-- Without a target every valid sentence is right. -/
theorem correct_of_free (decides : Decides cards judge) :
    (judge none).correct = (judge none).valid := by
  cases decides with
  | rejects check => rfl
  | @reads reading covers => simp [reading.correct_verdict]

/-- Another target, or none, changes neither the gate nor the reading. -/
theorem same_reading (decides : Decides cards judge) (target other : Option Target) :
    (judge target).valid = (judge other).valid ∧ (judge target).gate? = (judge other).gate? ∧
      (judge target).translation = (judge other).translation ∧
      (judge target).roles = (judge other).roles := by
  cases decides with
  | rejects check => exact ⟨rfl, rfl, rfl, rfl⟩
  | reads covers => simp

/-- A target counts by its words alone. -/
theorem correct_of_words {target other : Target} (decides : Decides cards judge)
    (words : Text.wordsOf target.surface = Text.wordsOf other.surface) :
    (judge (some target)).correct = (judge (some other)).correct := by
  have normal : target.normalized = other.normalized := by
    rw [Target.normalized, Target.normalized, Text.collapse, Text.collapse, words]
  cases decides with
  | rejects check => rfl
  | @reads reading covers =>
      rw [reading.correct_verdict, reading.correct_verdict, Option.all_some, Option.all_some,
        normal]

end Decides

end SentenceCards
