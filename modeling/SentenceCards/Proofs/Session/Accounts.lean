import SentenceCards.Proofs.Attempts.Progress
import SentenceCards.Proofs.Session.Counts

/-!
# Score, log and progress as functions of the history

What a session has counted can be read off its history: the points from the correct
submissions, the attempts from the submissions since the log was last exchanged, and the
progress in a lesson from its starts and the submissions under it.  `Accounts` states this for
a run and the session it leads to; every transition keeps it.
-/

namespace SentenceCards.Session

section AfterSubmission

variable {session : Session} {challenge : Challenge}

theorem log_afterSubmission_of_free (free : session.lessonId = none) :
    (session.afterSubmission challenge).log =
      session.log.record challenge.id session.built
        (session.submission challenge).verdict.correct :=
  log_noteProgress_of_free _ _ free

theorem log_afterSubmission_of_lesson {lesson : Lesson}
    (underway : session.lessonId = some lesson.id)
    (known : session.curriculum.lesson? lesson.id = some lesson) :
    (session.afterSubmission challenge).log =
      (session.log.record challenge.id session.built
        (session.submission challenge).verdict.correct).advance lesson.id lesson.moduleId
        (if (session.submission challenge).lessonComplete then .completed else .inProgress)
        (session.afterSubmission challenge).lessonScore := by
  rw [show (session.afterSubmission challenge).lessonScore =
    session.lessonScore + (session.submission challenge).points by simp [afterSubmission, earn,
      recordAttempt]]
  exact log_noteProgress_of_lesson _ _ underway known

variable (known : ∀ lessonId, session.lessonId = some lessonId →
  ∃ lesson, session.curriculum.lesson? lessonId = some lesson ∧ lesson.id = lessonId)

include known

theorem isSome_progressIn?_afterSubmission (other : String) :
    ((session.afterSubmission challenge).log.progressIn? other).isSome =
      (session.lessonId == some other || (session.log.progressIn? other).isSome) := by
  cases underway : session.lessonId with
  | none => simp [log_afterSubmission_of_free underway]
  | some lessonId =>
      obtain ⟨lesson, found, rfl⟩ := known lessonId underway
      rw [log_afterSubmission_of_lesson underway found, AttemptLog.isSome_progressIn?_advance]
      by_cases same : other = lesson.id
      · simp [same]
      · simp [same, Ne.symm same]

theorem pointsIn_afterSubmission (other : String) :
    (session.afterSubmission challenge).log.pointsIn other =
      if session.lessonId = some other then
        max (session.log.pointsIn other) (session.afterSubmission challenge).lessonScore.toNat
      else session.log.pointsIn other := by
  cases underway : session.lessonId with
  | none => simp [log_afterSubmission_of_free underway]
  | some lessonId =>
      obtain ⟨lesson, found, rfl⟩ := known lessonId underway
      rw [log_afterSubmission_of_lesson underway found, AttemptLog.pointsIn_advance]
      by_cases same : other = lesson.id
      · simp [same]
      · simp [same, Ne.symm same]

theorem isCompletedIn_afterSubmission (other : String) :
    (session.afterSubmission challenge).log.isCompletedIn other =
      (session.log.isCompletedIn other ||
        (session.lessonId == some other && (session.submission challenge).lessonComplete)) := by
  cases underway : session.lessonId with
  | none => simp [log_afterSubmission_of_free underway]
  | some lessonId =>
      obtain ⟨lesson, found, rfl⟩ := known lessonId underway
      rw [log_afterSubmission_of_lesson underway found, AttemptLog.isCompletedIn_advance]
      by_cases same : other = lesson.id
      · cases complete : (session.submission challenge).lessonComplete <;> simp [same]
      · simp [same, Ne.symm same]

end AfterSubmission

/-- What the session has counted is what its history says. -/
structure Accounts (steps : List Step) (session : Session) : Prop where
  score : session.score.toNat = 10 * correctCount steps
  attempts : session.log.attempts =
    (baseLog steps).attempts ++ (sinceLog steps).filterMap Step.attempt?
  underway : ∀ lessonId, session.lessonId = some lessonId →
    session.lessonScore.toNat = 10 * correctSinceStart lessonId steps ∧
      ∃ lesson, session.curriculum.lesson? lessonId = some lesson ∧ lesson.id = lessonId
  listed : ∀ lessonId, (session.log.progressIn? lessonId).isSome =
    (((baseLog steps).progressIn? lessonId).isSome || (sinceLog steps).any (Step.concerns lessonId))
  points : ∀ lessonId, session.log.pointsIn lessonId =
    (pointsReached lessonId (untilLog steps) (sinceLog steps)).foldl max
      ((baseLog steps).pointsIn lessonId)
  completed : ∀ lessonId, session.log.isCompletedIn lessonId =
    ((baseLog steps).isCompletedIn lessonId || (sinceLog steps).any (Step.completes lessonId))

namespace Accounts

theorem start (catalog : Catalog) (curriculum : Curriculum) (plan : SessionPlan) :
    Accounts [] (start catalog curriculum plan) where
  score := rfl
  attempts := rfl
  underway := by
    intro lessonId underway
    simp [Session.start] at underway
  listed := by
    intro lessonId
    rfl
  points := by
    intro lessonId
    rfl
  completed := by
    intro lessonId
    rfl

variable {earlier : List Step} {before later : Session} {operation : Operation}
  {answer : Except Failure Answer}

/-- What a step adds to the accounts, unless it puts another log in place. -/
theorem concat {step : Step} (accounts : Accounts earlier before) (kept : step.log? = none)
    (score : later.score.toNat = 10 * correctCount (earlier ++ [step]))
    (attempts : later.log.attempts = before.log.attempts ++ step.attempt?.toList)
    (underway : ∀ lessonId, later.lessonId = some lessonId →
      later.lessonScore.toNat = 10 * correctSinceStart lessonId (earlier ++ [step]) ∧
        ∃ lesson, later.curriculum.lesson? lessonId = some lesson ∧ lesson.id = lessonId)
    (listed : ∀ lessonId, (later.log.progressIn? lessonId).isSome =
      ((before.log.progressIn? lessonId).isSome || step.concerns lessonId))
    (points : ∀ lessonId, later.log.pointsIn lessonId =
      if step.concerns lessonId then
        max (before.log.pointsIn lessonId) (10 * correctSinceStart lessonId (earlier ++ [step]))
      else before.log.pointsIn lessonId)
    (completed : ∀ lessonId, later.log.isCompletedIn lessonId =
      (before.log.isCompletedIn lessonId || step.completes lessonId)) :
    Accounts (earlier ++ [step]) later := by
  refine ⟨score, ?_, underway, ?_, ?_, ?_⟩
  · rw [attempts, accounts.attempts, baseLog_concat_of_none kept, sinceLog_concat_of_none kept,
      List.filterMap_append, List.append_assoc]
    cases attempt : step.attempt? <;> simp [attempt]
  · intro lessonId
    rw [listed, accounts.listed, baseLog_concat_of_none kept, sinceLog_concat_of_none kept]
    simp [Bool.or_assoc]
  · intro lessonId
    rw [points, accounts.points, baseLog_concat_of_none kept, sinceLog_concat_of_none kept,
      untilLog_concat_of_none kept, pointsReached_concat, untilLog_append_sinceLog]
    by_cases counts : step.concerns lessonId <;> simp [counts]
  · intro lessonId
    rw [completed, accounts.completed, baseLog_concat_of_none kept, sinceLog_concat_of_none kept]
    simp [Bool.or_assoc]

/-- A step that is no submission, starts no lesson and puts no log in place changes nothing that
is counted. -/
theorem quiet (accounts : Accounts earlier before)
    (transition : Transition before operation answer later)
    (noSubmission : ∀ submission, answer ≠ .ok (.submission submission))
    (noStart : ∀ lessonId, operation = .startLesson lessonId → answer.isOk = false)
    (noLog : ∀ log, operation ≠ .setLog log)
    (sameScore : later.score = before.score) (sameLog : later.log = before.log)
    (sameCurriculum : later.curriculum = before.curriculum)
    (sameLesson : ∀ lessonId, later.lessonId = some lessonId →
      before.lessonId = some lessonId ∧ later.lessonScore = before.lessonScore) :
    Accounts (earlier ++ [⟨before, operation⟩]) later := by
  let step : Step := ⟨before, operation⟩
  have answered : step.answer = answer := Step.answer_eq transition
  have submission : step.submission? = none := by
    unfold Step.submission?
    rw [answered]
    split
    · exact absurd rfl (noSubmission _)
    · rfl
  have started : ∀ lessonId, step.starts lessonId = false := by
    intro lessonId
    by_cases same : operation = .startLesson lessonId
    · simp [Step.starts, answered, noStart lessonId same]
    · simp [Step.starts, step, same]
  have kept : step.log? = none := by
    unfold Step.log?
    split
    · exact absurd ‹_› (noLog _)
    · rfl
  have incorrect : step.isCorrect = false := by simp [Step.isCorrect, submission]
  have counts : ∀ lessonId, step.concerns lessonId = false := by
    intro lessonId
    simp [Step.concerns, Step.submitsUnder, started, submission]
  apply accounts.concat kept
  · rw [sameScore, accounts.score, correctCount_concat]
    simp [incorrect, step]
  · simp [sameLog, Step.attempt?, submission, step]
  · intro lessonId underway
    obtain ⟨already, samePoints⟩ := sameLesson lessonId underway
    obtain ⟨points, known⟩ := accounts.underway lessonId already
    rw [samePoints, sameCurriculum, points, correctSinceStart_concat (started lessonId)]
    simp [incorrect, known, step]
  · simp [sameLog, counts, step]
  · simp [sameLog, counts, step]
  · simp [sameLog, Step.completes, submission, step]

theorem lessonStarted {lessonId : String} {lesson : Lesson} {first : Challenge}
    {rest : List Challenge} (accounts : Accounts earlier before)
    (found : before.curriculum.lesson? lessonId = some lesson)
    (listed : before.curriculum.challengesOf lessonId = first :: rest) :
    Accounts (earlier ++ [⟨before, .startLesson lessonId⟩])
      (before.inLesson lesson first rest) := by
  let step : Step := ⟨before, .startLesson lessonId⟩
  obtain rfl : lesson.id = lessonId := Curriculum.id_of_lesson? found
  have answered : step.answer = .ok (.challenge (some first)) :=
    Step.answer_eq (.lessonStarted found listed)
  have submission : step.submission? = none := by
    unfold Step.submission?
    rw [answered]
  have started : ∀ other, step.starts other = decide (other = lesson.id) := by
    intro other
    by_cases same : other = lesson.id
    · simp [Step.starts, answered, step, same, Except.isOk, Except.toBool]
    · simp [Step.starts, step, same, Ne.symm same]
  have counts : ∀ other, step.concerns other = decide (other = lesson.id) := by
    intro other
    simp [Step.concerns, Step.submitsUnder, started, submission]
  have log : (before.inLesson lesson first rest).log =
      before.log.advance lesson.id lesson.moduleId .inProgress 0 := rfl
  have fresh : correctSinceStart lesson.id (earlier ++ [step]) = 0 :=
    correctSinceStart_concat_of_starts (by simp [started])
  have kept : step.log? = none := rfl
  apply accounts.concat kept
  · rw [correctCount_concat]
    simp only [Step.isCorrect, submission]
    exact accounts.score
  · simp [log, Step.attempt?, submission]
  · intro other underway
    obtain rfl : lesson.id = other := Option.some.inj underway
    rw [fresh]
    exact ⟨rfl, lesson, found, rfl⟩
  · intro other
    rw [log, AttemptLog.isSome_progressIn?_advance, counts, Bool.or_comm]
  · intro other
    rw [log, AttemptLog.pointsIn_advance, counts]
    by_cases same : other = lesson.id
    · simp [same, fresh]
    · simp [same]
  · intro other
    rw [log, AttemptLog.isCompletedIn_advance]
    by_cases same : other = lesson.id
    · simp [same, Step.completes, submission]
    · simp [same, Step.completes, submission]

/-- With `n` points counted, ten more can be added as long as fewer than 429496730 sentences
were correct. -/
theorem toNat_add_points {total : UInt32} {count : Nat} {correct : Bool}
    (counted : total.toNat = 10 * count)
    (few : count + (if correct then 1 else 0) < 429496730) :
    (total + if correct then pointsPerSentence else 0).toNat =
      10 * (count + if correct then 1 else 0) := by
  cases correct with
  | false => simpa using counted
  | true =>
      have ten : pointsPerSentence.toNat = 10 := rfl
      simp only [if_true] at few ⊢
      rw [UInt32.toNat_add, counted, ten, Nat.mod_eq_of_lt (by omega)]
      omega

theorem submitted {challenge : Challenge} (accounts : Accounts earlier before)
    (active : before.challenge? = some challenge)
    (ready : isReady challenge before.slots = true)
    (few : correctCount (earlier ++ [⟨before, .submit⟩]) < 429496730) :
    Accounts (earlier ++ [⟨before, .submit⟩]) (before.afterSubmission challenge) := by
  let step : Step := ⟨before, .submit⟩
  let outcome := before.submission challenge
  have answered : step.answer = .ok (.submission outcome) :=
    Step.answer_eq (.submitted active ready)
  have submission : step.submission? = some outcome := by
    unfold Step.submission?
    rw [answered]
  have correct : step.isCorrect = outcome.verdict.correct := by
    simp [Step.isCorrect, submission]
  have started : ∀ lessonId, step.starts lessonId = false := by
    intro lessonId
    rfl
  have counts : ∀ lessonId, step.concerns lessonId = (before.lessonId == some lessonId) := by
    intro lessonId
    simp [Step.concerns, Step.submitsUnder, started, submission, step]
  rw [correctCount_concat, correct] at few
  have lessonPoints : ∀ lessonId, before.lessonId = some lessonId →
      (before.afterSubmission challenge).lessonScore.toNat =
        10 * correctSinceStart lessonId (earlier ++ [step]) := by
    intro lessonId underway
    have below := correctSinceStart_le lessonId earlier
    rw [correctSinceStart_concat (started lessonId), correct]
    simp only [afterSubmission, lessonScore_noteProgress]
    exact toNat_add_points (accounts.underway lessonId underway).1
      (Nat.lt_of_le_of_lt (Nat.add_le_add_right below _) few)
  have known : ∀ lessonId, before.lessonId = some lessonId →
      ∃ lesson, before.curriculum.lesson? lessonId = some lesson ∧ lesson.id = lessonId :=
    fun lessonId underway => (accounts.underway lessonId underway).2
  have kept : step.log? = none := rfl
  apply accounts.concat kept
  · rw [correctCount_concat, correct]
    simp only [afterSubmission, score_noteProgress]
    exact toNat_add_points accounts.score few
  · rw [attempts_afterSubmission]
    simp [Step.attempt?, submission, active, outcome, step]
  · intro lessonId underway
    simp only [afterSubmission, lessonId_noteProgress] at underway
    refine ⟨lessonPoints lessonId underway, ?_⟩
    simp only [afterSubmission, curriculum_noteProgress]
    exact known lessonId underway
  · intro lessonId
    rw [isSome_progressIn?_afterSubmission known, counts, Bool.or_comm]
  · intro lessonId
    rw [pointsIn_afterSubmission known, counts]
    by_cases underway : before.lessonId = some lessonId
    · simp [underway, lessonPoints lessonId underway]
    · simp [underway]
  · intro lessonId
    rw [isCompletedIn_afterSubmission known]
    simp [Step.completes, Step.submitsUnder, submission, step, outcome]

theorem logSet {log : AttemptLog} (accounts : Accounts earlier before) :
    Accounts (earlier ++ [⟨before, .setLog log⟩]) (before.withLog log) := by
  let step : Step := ⟨before, .setLog log⟩
  have put : step.log? = some log := rfl
  have submission : step.submission? = none := rfl
  have started : ∀ lessonId, step.starts lessonId = false := by
    intro lessonId
    rfl
  constructor
  · rw [correctCount_concat]
    simp only [Step.isCorrect, submission, step]
    exact accounts.score
  · rw [baseLog_concat_of_some put, sinceLog_concat_of_some put]
    simp [withLog]
  · intro lessonId underway
    obtain ⟨points, known⟩ := accounts.underway lessonId underway
    refine ⟨?_, known⟩
    rw [correctSinceStart_concat (started lessonId)]
    simp only [Step.isCorrect, submission, step]
    exact points
  · intro lessonId
    rw [baseLog_concat_of_some put, sinceLog_concat_of_some put]
    simp [withLog]
  · intro lessonId
    rw [baseLog_concat_of_some put, sinceLog_concat_of_some put]
    rfl
  · intro lessonId
    rw [baseLog_concat_of_some put, sinceLog_concat_of_some put]
    simp [withLog]

theorem of_run (catalog : Catalog) (curriculum : Curriculum) (plan : SessionPlan)
    (operations : List Operation) :
    correctCount ((Session.start catalog curriculum plan).steps operations) < 429496730 →
      Accounts ((Session.start catalog curriculum plan).steps operations)
        ((Session.start catalog curriculum plan).afterAll operations) := by
  refine run_induction
    (fun steps session => correctCount steps < 429496730 → Accounts steps session)
    _ (fun _ => start catalog curriculum plan) ?_ operations
  intro earlier before later operation answer transition accounts few
  have fewBefore : correctCount earlier < 429496730 := by
    rw [correctCount_concat] at few
    omega
  have accounts := accounts fewBefore
  have same := transition
  cases transition with
  | lessonStarted found listed => exact accounts.lessonStarted found listed
  | submitted active ready => exact accounts.submitted active ready few
  | logSet => exact accounts.logSet
  | refused refusal =>
      refine accounts.quiet same (by simp) (fun _ _ => rfl) ?_ rfl rfl rfl
        fun _ underway => ⟨underway, rfl⟩
      rintro log rfl
      cases refusal with
      | inactive needed => exact absurd needed Bool.false_ne_true
  | unrecognized =>
      exact accounts.quiet same (by simp) (fun _ _ => rfl) (by simp) rfl rfl rfl
        fun _ underway => ⟨underway, rfl⟩
  | freeBuildStarted =>
      exact accounts.quiet same (by simp) (by simp) (by simp) rfl rfl rfl
        fun _ underway => by simp [startFreeBuild] at underway
  | said | placed | taken | cleared | hinted | advanced | atEnd =>
      exact accounts.quiet same (by simp) (by simp) (by simp) rfl rfl rfl
        fun _ underway => ⟨underway, rfl⟩

end Accounts

/-- Score, attempts and progress are what the history of the session says.  The points in a lesson
are the most that were reached in one go since it was started, or in the log put in place. -/
theorem counted_of_history (catalog : Catalog) (curriculum : Curriculum) (plan : SessionPlan)
    (operations : List Operation)
    (few : correctCount ((start catalog curriculum plan).steps operations) < 429496730) :
    let steps := (start catalog curriculum plan).steps operations
    let session := (start catalog curriculum plan).afterAll operations
    session.score.toNat = 10 * correctCount steps ∧
      session.log.attempts =
        (baseLog steps).attempts ++ (sinceLog steps).filterMap Step.attempt? ∧
      ∀ lessonId,
        ((session.log.progressIn? lessonId).isSome ↔
          ((baseLog steps).progressIn? lessonId).isSome ∨
            ∃ step ∈ sinceLog steps, step.starts lessonId ∨ step.submitsUnder lessonId) ∧
        ∀ row, session.log.progressIn? lessonId = some row →
          row.score.toNat =
            (pointsReached lessonId (untilLog steps) (sinceLog steps)).foldl max
              ((baseLog steps).pointsIn lessonId) ∧
          (row.status = .completed ↔
            (baseLog steps).isCompletedIn lessonId ∨
              ∃ step ∈ sinceLog steps, step.completes lessonId) := by
  intro steps session
  have accounts : Accounts steps session := Accounts.of_run catalog curriculum plan operations few
  refine ⟨accounts.score, accounts.attempts, ?_⟩
  intro lessonId
  constructor
  · rw [accounts.listed]
    simp [Step.concerns]
  · intro row found
    constructor
    · rw [← accounts.points, AttemptLog.pointsIn, found]
      rfl
    · have completed := accounts.completed lessonId
      simp only [AttemptLog.isCompletedIn, found, Option.any_some] at completed
      rw [← beq_iff_eq, completed]
      simp [AttemptLog.isCompletedIn]

theorem counted_of_history_freeBuild :
    let earlier : AttemptLog := ⟨[⟨"c_1_1_1", [], false⟩], []⟩
    let operations : List Operation :=
      [.startFreeBuild .he, .place 1 0, .place 3 1, .submit, .setLog earlier, .submit, .reset,
        .submit]
    let steps := (start .standard .standard .usual).steps operations
    let session := (start .standard .standard .usual).afterAll operations
    correctCount steps < 429496730 ∧ session.score.toNat = 20 ∧
      session.log.attempts =
        [⟨"c_1_1_1", [], false⟩,
          ⟨"free_he", [⟨"He", "particle"⟩, ⟨"whare", "noun"⟩], true⟩, ⟨"free_he", [], false⟩] := by
  intro earlier operations steps session
  have two : correctCount steps = 2 := by decide +kernel
  have few : correctCount steps < 429496730 := by omega
  have logged : (baseLog steps).attempts ++ (sinceLog steps).filterMap Step.attempt? =
      [⟨"c_1_1_1", [], false⟩,
        ⟨"free_he", [⟨"He", "particle"⟩, ⟨"whare", "noun"⟩], true⟩, ⟨"free_he", [], false⟩] := by
    decide +kernel
  obtain ⟨score, attempts, _⟩ := counted_of_history .standard .standard .usual operations few
  refine ⟨few, ?_, attempts.trans logged⟩
  rw [score]
  exact congrArg (10 * ·) two

end SentenceCards.Session
