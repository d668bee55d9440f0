import SentenceCards.Curriculum.Standard
import SentenceCards.Proofs.Grammar.Alike
import SentenceCards.Proofs.Session.Transition

/-!
# Rechecking the attempt log

The log keeps of a submitted sentence the surfaces of its cards and the names of their categories.
That is all that the patterns look at, so whether an attempt was correct can be found out from the
log once more (`Pattern.recheck_ofCard`).
-/

namespace SentenceCards

/-- A card with the surface and the category of a logged word. -/
def BuiltWord.card (built : BuiltWord) : Card where
  id := ""
  surface := built.word
  gloss := ""
  category := (Category.ofName? built.category).getD default
  colour := default
  marks := none

theorem BuiltWord.alike_card_ofCard (card : Card) : card.Alike (ofCard card).card where
  surface := rfl
  category := by simp [BuiltWord.card, ofCard, Category.ofName?_name]

/-- Whether the sentence of the logged words is the one that a challenge asks for. -/
def Pattern.recheck (pattern : Pattern) (target : Option Target) (built : List BuiltWord) : Bool :=
  -- Any style does, since it makes a difference to the translation only.
  (pattern.judge .annotate (built.map BuiltWord.card) target).correct

theorem Pattern.recheck_ofCard (pattern : Pattern) (style : PluralStyle) (cards : List Card)
    (target : Option Target) :
    pattern.recheck target (cards.map .ofCard) = (pattern.judge style cards target).correct := by
  have alike : List.Forall₂ Card.Alike cards ((cards.map BuiltWord.ofCard).map BuiltWord.card) := by
    induction cards with
    | nil => exact .nil
    | cons card rest ih => exact .cons (BuiltWord.alike_card_ofCard card) ih
  exact (pattern.judge_toldAlike style .annotate alike target).correct.symm

/-- A submission is logged with an attempt that is rechecked to what was submitted. -/
theorem Session.exists_attempt_of_submission {session : Session} {submission : Submission}
    (answer : (session.perform .submit).1 = .ok (.submission submission)) :
    ∃ challenge attempt, session.challenge? = some challenge ∧
      (session.perform .submit).2.log.attempts = session.log.attempts ++ [attempt] ∧
      attempt.challengeId = challenge.id ∧ attempt.built = session.built.map .ofCard ∧
      attempt.correct = submission.verdict.correct ∧
      attempt.correct = challenge.pattern.recheck challenge.target attempt.built := by
  have transition := session.perform_transition .submit
  rw [answer] at transition
  generalize (session.perform .submit).2 = later at transition ⊢
  cases transition with
  | @submitted challenge active ready =>
      exact ⟨challenge, _, active, session.attempts_afterSubmission challenge, rfl, rfl, rfl,
        (challenge.pattern.recheck_ofCard session.style session.built challenge.target).symm⟩

/-- The verdict depends on the surfaces, the categories and the words of the target only. -/
theorem judged_by_words :
    (∀ (pattern : Pattern) (style otherStyle : PluralStyle) (cards others : List Card)
      (target : Option Target), List.Forall₂ Card.Alike cards others →
        (pattern.judge style cards target).ToldAlike (pattern.judge otherStyle others target)) ∧
    (∀ (pattern : Pattern) (style : PluralStyle) (cards : List Card)
      (target other : Option Target),
        let verdict := pattern.judge style cards target
        let otherVerdict := pattern.judge style cards other
        verdict.valid = otherVerdict.valid ∧ verdict.gate? = otherVerdict.gate? ∧
          verdict.translation = otherVerdict.translation ∧ verdict.roles = otherVerdict.roles) ∧
    (∀ (pattern : Pattern) (style : PluralStyle) (cards : List Card) (target other : Target),
        Text.wordsOf target.surface = Text.wordsOf other.surface →
          (pattern.judge style cards (some target)).correct =
            (pattern.judge style cards (some other)).correct) ∧
    (∀ (session : Session) (submission : Submission),
        (session.perform .submit).1 = .ok (.submission submission) →
          ∃ challenge attempt, session.challenge? = some challenge ∧
            (session.perform .submit).2.log.attempts = session.log.attempts ++ [attempt] ∧
            attempt.challengeId = challenge.id ∧ attempt.built = session.built.map .ofCard ∧
            attempt.correct = submission.verdict.correct ∧
            attempt.correct = challenge.pattern.recheck challenge.target attempt.built) := by
  refine ⟨?_, ?_, ?_, ?_⟩
  · intro pattern style otherStyle cards others target alike
    exact pattern.judge_toldAlike style otherStyle alike target
  · intro pattern style cards target other
    exact (pattern.judge_decides style cards).same_reading target other
  · intro pattern style cards target other words
    exact (pattern.judge_decides style cards).correct_of_words words
  · intro session submission answer
    exact Session.exists_attempt_of_submission answer

/-- A session that is free to build `He whare`, and has done so. -/
def freeHe : Session :=
  ((Session.start .standard .standard .usual).performAll
    [.startFreeBuild .he, .place 1 0, .place 3 1]).2

theorem judged_by_words_decoys :
    let target : Target := ⟨"He whare", "a house"⟩
    let spaced : Target := ⟨" He  whare", ""⟩
    let decoys := freeHe.built.map Card.asDecoy
    let submission := freeHe.submission (.freeBuild .he)
    List.Forall₂ Card.Alike freeHe.built decoys ∧
      Text.wordsOf target.surface = Text.wordsOf spaced.surface ∧
      (freeHe.perform .submit).1 = .ok (.submission submission) ∧
      (Pattern.he.judge .annotate freeHe.built (some target)).ToldAlike
        (Pattern.he.judge .pluralize decoys (some target)) ∧
      (Pattern.he.judge .annotate freeHe.built (some target)).translation =
        (Pattern.he.judge .annotate freeHe.built none).translation ∧
      (Pattern.he.judge .annotate freeHe.built (some target)).correct =
        (Pattern.he.judge .annotate freeHe.built (some spaced)).correct ∧
      ∃ attempt, (freeHe.perform .submit).2.log.attempts = [attempt] ∧ attempt.correct = true ∧
        Pattern.he.recheck none attempt.built = true := by
  intro target spaced decoys submission
  obtain ⟨cards, targets, words, submits⟩ := judged_by_words
  have alike : List.Forall₂ Card.Alike freeHe.built decoys := by
    simp only [decoys, List.forall₂_map_right_iff, List.forall₂_same]
    intro card _
    exact ⟨rfl, rfl⟩
  have same : Text.wordsOf target.surface = Text.wordsOf spaced.surface := by decide +kernel
  have active : freeHe.challenge? = some (.freeBuild .he) := by decide +kernel
  have ready : Session.isReady (.freeBuild .he) freeHe.slots = true := by decide +kernel
  have answer : (freeHe.perform .submit).1 = .ok (.submission submission) := by
    rw [(Session.Transition.submitted active ready).perform_eq]
  have unlogged : freeHe.log.attempts = [] := by decide +kernel
  have correct : submission.verdict.correct = true := by decide +kernel
  obtain ⟨challenge, attempt, found, logged, _, _, kept, rechecked⟩ := submits _ _ answer
  obtain rfl : Challenge.freeBuild .he = challenge := Option.some.inj (active.symm.trans found)
  rw [correct] at kept
  rw [unlogged, List.nil_append] at logged
  refine ⟨alike, same, answer, cards _ _ _ _ _ _ alike, (targets _ _ _ _ _).2.2.1,
    words _ _ _ _ _ same, attempt, logged, kept, ?_⟩
  exact rechecked.symm.trans kept

end SentenceCards
