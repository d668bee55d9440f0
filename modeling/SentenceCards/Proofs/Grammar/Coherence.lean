import SentenceCards.Proofs.Grammar.Alike

/-!
# Verdicts in themselves

The parts of a verdict are set in many places, one for each way to reject a sentence and one for
each form that is accepted.  They fit together in all of them (`Pattern.judge_coherent`).
-/

namespace SentenceCards

/-- The parts of the verdict fit together, and to the cards and the target. -/
structure Verdict.Coherent (verdict : Verdict) (cards : List Card) (target : Option Target) :
    Prop where
  valid_of_correct : verdict.correct = true → verdict.valid = true
  gate : verdict.gate?.isSome = true ↔ verdict.valid = false
  translation : verdict.translation = "" ↔ verdict.valid = false
  rejected : verdict.valid = false →
    verdict.feedback.tone = .error ∧ verdict.roles = [] ∧ verdict.feedback.hint.isSome = true ∧
      verdict.feedback.natural = false
  /-- There is one role for each card, in their order. -/
  roles : verdict.valid = true → verdict.roles.map Role.word = cards.map Card.surface
  unasked : target = none → verdict.correct = verdict.valid
  asked : ∀ asked, target = some asked →
    (verdict.correct = true ↔ verdict.valid = true ∧
      " ".intercalate (cards.map Card.surface) = " ".intercalate (Text.wordsOf asked.surface))
  success : verdict.feedback.tone = .success ↔ verdict.correct = true
  warning : verdict.feedback.tone = .warning ↔ verdict.valid = true ∧ verdict.correct = false
  natural : verdict.feedback.natural = true ↔ verdict.correct = true

theorem Check.coherent_rejection (check : Check) (cards : List Card) (target : Option Target) :
    check.rejection.Coherent cards target := by
  constructor <;> simp [rejection, Verdict.valid, Verdict.correct, Verdict.gate?,
    Verdict.translation, Verdict.roles]

theorem Reading.coherent_verdict {reading : Reading} {cards : List Card}
    (covers : reading.Covers cards) (target : Option Target) :
    (reading.verdict cards target).Coherent cards target where
  valid_of_correct _ := reading.valid_verdict cards target
  gate := by simp
  translation := by simp [covers.translated]
  rejected := by simp
  roles _ := by rw [roles_verdict, covers.words]
  unasked := by
    rintro rfl
    rfl
  asked := by
    rintro asked rfl
    rw [correct_verdict, Option.all_some, decide_eq_true_iff, valid_verdict, eq_self, true_and]
    rfl
  success := by
    rw [tone_verdict]
    cases (reading.verdict cards target).correct <;> simp
  warning := by
    rw [tone_verdict, valid_verdict]
    cases (reading.verdict cards target).correct <;> simp
  natural := by rw [natural_verdict]

theorem Decides.coherent {cards : List Card} {judge : Option Target → Verdict}
    (decides : Decides cards judge) (target : Option Target) :
    (judge target).Coherent cards target := by
  cases decides with
  | rejects check => exact check.coherent_rejection cards target
  | reads covers => exact Reading.coherent_verdict covers target

theorem Pattern.judge_coherent (pattern : Pattern) (style : PluralStyle) (cards : List Card)
    (target : Option Target) : (pattern.judge style cards target).Coherent cards target :=
  (pattern.judge_decides style cards).coherent target

end SentenceCards
