import SentenceCards.Proofs.Attempts.Progress
import SentenceCards.Proofs.Session.Counts
import SentenceCards.Proofs.Session.Tracing

/-!
# The story that the trace tells

What a trace holds can be read off the history of the session.  Every submission, every said
sentence of known words and every hint of the pattern has its events, numbered by the attempts
that were begun, and nothing else has any (`story`).  A trace that records everything holds the
last events of the story, and those about attempts are the last attempts that were logged
(`story_recorded`).
-/

namespace SentenceCards

/-- The trace is neither switched off nor emptied. -/
def Happening.keepsTrace : Happening → Bool
  | .order (.switch on) => on
  | .order .clear => false
  | .operation _ | .order (.format _) | .clock _ => true

namespace Session

namespace Step

/-- A new attempt is begun: a sentence is submitted, or one of known words is said. -/
def beginsAttempt (step : Step) : Bool :=
  match step.operation with
  | .submit => step.answer.isOk
  | .say text => (step.before.catalog.cardsOf text).isOk
  | _ => false

/-- What is told of a step: of a submission its judging and the attempt that is logged, of a said
sentence its pattern and its judging, and of a hint what the pattern has to say. -/
def events (step : Step) : List Trace.Event :=
  match step.operation, step.before.challenge?, step.answer with
  | .submit, some challenge, .ok (.submission submission) =>
      Trace.judgingTold challenge.pattern step.before.built submission.verdict ++
        (step.attempt?.map fun attempt =>
          .attemptRecorded attempt.challengeId attempt.correct).toList
  | .say text, _, .ok (.said pattern verdict) =>
      match step.before.catalog.cardsOf text with
      | .ok cards => .patternDetected pattern :: Trace.judgingTold pattern cards verdict
      | .error _ => []
  | .hint, some challenge, .ok _ =>
      ((challenge.pattern.hint step.before.slots.leading).map
        (.hintIssued challenge.pattern)).toList
  | _, _, _ => []

end Step

/-- The events of the steps, each under the number of the attempts that have been begun by then;
`begun` attempts went before. -/
def story (begun : Nat) : List Step → List (Nat × Trace.Event)
  | [] => []
  | step :: rest =>
      let begun := begun + if step.beginsAttempt then 1 else 0
      step.events.map (begun, ·) ++ story begun rest

def attemptsBegun (steps : List Step) : Nat := steps.countP Step.beginsAttempt

theorem attemptsBegun_concat (steps : List Step) (step : Step) :
    attemptsBegun (steps ++ [step]) =
      attemptsBegun steps + if step.beginsAttempt then 1 else 0 := by
  simp [attemptsBegun, List.countP_cons]

theorem story_concat (begun : Nat) (steps : List Step) (step : Step) :
    story begun (steps ++ [step]) =
      story begun steps ++ step.events.map (begun + attemptsBegun (steps ++ [step]), ·) := by
  induction steps generalizing begun with
  | nil => simp [story, attemptsBegun, List.countP_cons]
  | cons first rest ih =>
      have counted : attemptsBegun (first :: (rest ++ [step])) =
          (if first.beginsAttempt then 1 else 0) + attemptsBegun (rest ++ [step]) := by
        rw [attemptsBegun, List.countP_cons, Nat.add_comm]
        rfl
      rw [List.cons_append, story, story, ih, counted, List.append_assoc, Nat.add_assoc]

section Told

variable {before later : Session} {operation : Operation} {answer : Except Failure Answer}

theorem Step.events_of_error {step : Step} {failure : Failure}
    (failed : step.answer = .error failure) : step.events = [] := by
  unfold Step.events
  rw [failed]
  split <;> simp_all

theorem Step.attempt?_submit {challenge : Challenge} (active : before.challenge? = some challenge)
    (ready : isReady challenge before.slots = true) :
    (Step.mk before .submit).attempt? =
      some ⟨challenge.id, before.built.map fun card => ⟨card.surface, card.category.name⟩,
        (before.submission challenge).verdict.correct⟩ := by
  simp [Step.attempt?, Step.submission?, Step.answer_eq (.submitted active ready), active]

theorem Step.events_submit {challenge : Challenge} (active : before.challenge? = some challenge)
    (ready : isReady challenge before.slots = true) :
    (Step.mk before .submit).events =
      Trace.judgingTold challenge.pattern before.built (before.submission challenge).verdict ++
        [.attemptRecorded challenge.id (before.submission challenge).verdict.correct] := by
  simp only [Step.events, Step.answer_eq (.submitted active ready), active,
    Step.attempt?_submit active ready]
  rfl

theorem Step.events_say {text : String} {cards : List Card} {pattern : Pattern}
    (read : before.catalog.cardsOf text = .ok cards) (detected : detect cards = some pattern) :
    (Step.mk before (.say text)).events =
      .patternDetected pattern ::
        Trace.judgingTold pattern cards (pattern.judge before.style cards none) := by
  simp only [Step.events, Step.answer_eq (.said read detected), read]

theorem Step.events_hint {challenge : Challenge} (active : before.challenge? = some challenge) :
    (Step.mk before .hint).events =
      ((challenge.pattern.hint before.slots.leading).map
        (.hintIssued challenge.pattern)).toList := by
  simp only [Step.events, Step.answer_eq (.hinted active), active]

theorem Step.beginsAttempt_of_refusal {failure : Failure}
    (refusal : Refusal before operation failure) :
    (Step.mk before operation).beginsAttempt = false := by
  have failed := Step.answer_eq (.refused refusal)
  cases operation with
  | submit => simp [Step.beginsAttempt, failed, Except.isOk, Except.toBool]
  | say text =>
      cases refusal with
      | inactive needed => exact absurd needed Bool.false_ne_true
      | unreadable unread => simp [Step.beginsAttempt, unread, Except.isOk, Except.toBool]
  | startLesson | startFreeBuild | place | take | reset | hint | next | setLog => rfl

theorem Step.beginsAttempt_say {text : String} {cards : List Card}
    (read : before.catalog.cardsOf text = .ok cards) :
    (Step.mk before (.say text)).beginsAttempt = true := by
  simp [Step.beginsAttempt, read, Except.isOk, Except.toBool]

theorem Transition.attempt_recorder (transition : Transition before operation answer later) :
    later.recorder.attempt =
      before.recorder.attempt + if (Step.mk before operation).beginsAttempt then 1 else 0 := by
  have answered := Step.answer_eq transition
  cases transition with
  | refused refusal => rw [Step.beginsAttempt_of_refusal refusal]; rfl
  | unrecognized read shapeless => rw [Step.beginsAttempt_say read]; rfl
  | said read detected =>
      simp only [Trace.Recorder.attempt_recordAll, Step.beginsAttempt_say read]
      rfl
  | submitted =>
      have begins : (Step.mk before .submit).beginsAttempt = true := by
        simp [Step.beginsAttempt, answered, Except.isOk, Except.toBool]
      rw [recorder_afterSubmission, Trace.Recorder.attempt_record,
        Trace.Recorder.attempt_recordAll, begins]
      rfl
  | hinted => exact Trace.Recorder.attempt_recordAll _ _
  | lessonStarted | freeBuildStarted | placed | taken | cleared | advanced | atEnd | logSet => rfl

/-- The events of a step are recorded, and no others. -/
theorem Transition.tells (transition : Transition before operation answer later)
    (attends : before.recorder.Attends) :
    before.recorder.Tells later.recorder
      ((Step.mk before operation).events.map (later.recorder.attempt, ·)) := by
  have answered := Step.answer_eq transition
  have begun := Trace.Recorder.Tells.nextAttempt attends
  cases transition with
  | refused refusal =>
      rw [Step.events_of_error answered]
      exact .refl attends
  | unrecognized read shapeless =>
      rw [Step.events_of_error answered]
      exact begun
  | @said text cards pattern read detected =>
      have found := begun.trans (.recordAll begun.attends [.patternDetected pattern])
      have judged := found.trans (.recordAll found.attends
        (Trace.judgingEvents pattern cards (pattern.judge before.style cards none)))
      rw [Step.events_say read detected]
      simpa [Trace.judgingEvents_eq, Trace.Recorder.attempt_recordAll] using judged
  | @submitted challenge active ready =>
      have judged := begun.trans (.recordAll begun.attends (Trace.judgingEvents challenge.pattern
        before.built (before.submission challenge).verdict))
      have noted := judged.trans (.record judged.attends
        (.attemptRecorded challenge.id (before.submission challenge).verdict.correct))
      rw [recorder_afterSubmission, Step.events_submit active ready]
      simpa [Trace.judgingEvents_eq, Trace.Recorder.attempt_recordAll,
        Trace.Recorder.attempt_record] using noted
  | @hinted challenge active =>
      rw [Step.events_hint active, Trace.Recorder.attempt_recordAll]
      exact .recordAll attends _
  | lessonStarted | freeBuildStarted | placed | taken | cleared | advanced | atEnd | logSet =>
      exact .refl attends

/-- A submission is logged, and nothing else changes the logged attempts but another log. -/
theorem Transition.attempts (transition : Transition before operation answer later) :
    later.log.attempts =
      match (Step.mk before operation).log? with
      | some log => log.attempts
      | none => before.log.attempts ++ (Step.mk before operation).attempt?.toList := by
  have answered := Step.answer_eq transition
  cases transition with
  | refused refusal =>
      have kept : (Step.mk before operation).log? = none := by
        cases operation with
        | setLog log =>
            cases refusal with
            | inactive needed => exact absurd needed Bool.false_ne_true
        | _ => rfl
      simp [kept, Step.attempt?, Step.submission?, answered]
  | submitted active ready =>
      rw [attempts_afterSubmission, Step.attempt?_submit active ready]
      rfl
  | lessonStarted | freeBuildStarted | placed | taken | cleared | advanced | atEnd | unrecognized
  | said | hinted =>
      simp [Step.log?, Step.attempt?, Step.submission?, answered, startFreeBuild, reset, enter,
        inLesson, takeUp, AttemptLog.advance]
  | logSet => rfl

/-- The attempts that are told of are those that are logged. -/
theorem Transition.attempts_told (transition : Transition before operation answer later) :
    (Step.mk before operation).events.filterMap Trace.Event.attempt? =
      ((Step.mk before operation).attempt?.map fun attempt =>
        (attempt.challengeId, attempt.correct)).toList := by
  have answered := Step.answer_eq transition
  cases transition with
  | refused | unrecognized =>
      rw [Step.events_of_error answered]
      simp [Step.attempt?, Step.submission?, answered]
  | said read detected =>
      rw [Step.events_say read detected, List.filterMap_cons, Trace.attempts_judgingTold]
      simp [Step.attempt?, Step.submission?, answered, Trace.Event.attempt?]
  | submitted active ready =>
      rw [Step.events_submit active ready, List.filterMap_append, Trace.attempts_judgingTold,
        Step.attempt?_submit active ready]
      rfl
  | @hinted challenge active =>
      rw [Step.events_hint active]
      cases challenge.pattern.hint before.slots.leading <;>
        simp [Step.attempt?, Step.submission?, answered, Trace.Event.attempt?]
  | lessonStarted | freeBuildStarted | placed | taken | cleared | advanced | atEnd | logSet =>
      simp [Step.events, Step.attempt?, Step.submission?, answered]

theorem attempts_story (begun : Nat) (steps : List Step) :
    (story begun steps).filterMap (·.2.attempt?) =
      (steps.filterMap Step.attempt?).map fun attempt =>
        (attempt.challengeId, attempt.correct) := by
  induction steps generalizing begun with
  | nil => rfl
  | cons step rest ih =>
      have told := (perform_transition step.before step.operation).attempts_told
      rw [story, List.filterMap_append, ih, List.filterMap_map]
      change step.events.filterMap Trace.Event.attempt? ++ _ = _
      rw [told]
      cases logged : step.attempt? with
      | none => rw [List.filterMap_cons_none logged]; rfl
      | some attempt => rw [List.filterMap_cons_some logged]; rfl

/-- The trace and the log of a session after these steps. -/
structure Told (origin : Trace.Recorder) (steps : List Step) (session : Session) : Prop where
  tells : origin.Tells session.recorder (story origin.attempt steps)
  attempt : session.recorder.attempt = origin.attempt + attemptsBegun steps
  attempts : session.log.attempts =
    (baseLog steps).attempts ++ (sinceLog steps).filterMap Step.attempt?

namespace Told

variable {origin : Trace.Recorder} {steps : List Step} {session : Session}

theorem further (told : Told origin steps before)
    (transition : Transition before operation answer later) :
    Told origin (steps ++ [⟨before, operation⟩]) later := by
  have attempt : later.recorder.attempt =
      origin.attempt + attemptsBegun (steps ++ [⟨before, operation⟩]) := by
    rw [transition.attempt_recorder, told.attempt, attemptsBegun_concat, Nat.add_assoc]
  constructor
  · rw [story_concat, ← attempt]
    exact told.tells.trans (transition.tells told.tells.attends)
  · exact attempt
  · rw [transition.attempts]
    cases put : (Step.mk before operation).log? with
    | some log => simp [baseLog_concat_of_some put, sinceLog_concat_of_some put]
    | none =>
        rw [baseLog_concat_of_none put, sinceLog_concat_of_none put, told.attempts,
          List.filterMap_append, List.append_assoc]
        cases logged : (Step.mk before operation).attempt? <;> simp [logged]

/-- Nothing is told of what happens besides the operations. -/
theorem aside (told : Told origin steps session) {happening : Happening}
    (keeps : happening.keepsTrace = true) (still : happening.operation? = none) :
    Told origin steps (session.after happening) := by
  have attends := told.tells.attends
  have quiet : session.recorder.Tells (session.after happening).recorder [] := by
    cases happening with
    | operation operation => simp [Happening.operation?] at still
    | order order =>
        cases order with
        | switch on => exact .nothing attends rfl keeps rfl
        | clear => simp [Happening.keepsTrace] at keeps
        | format json => exact .nothing attends rfl attends.enabled rfl
    | clock time => exact .nothing attends rfl attends.enabled rfl
  have same : (session.after happening).untraced = session.untraced := untraced_after still
  constructor
  · rw [← List.append_nil (story _ _)]
    exact told.tells.trans quiet
  · show (session.after happening).untraced.recorder.attempt = _
    rw [same]
    exact told.attempt
  · show (session.after happening).untraced.log.attempts = _
    rw [same]
    exact told.attempts

theorem of_happenings (catalog : Catalog) (curriculum : Curriculum) {plan : SessionPlan}
    {happenings : List Happening} (enabled : plan.trace.enabled = true)
    (unfiltered : plan.trace.filter = [])
    (kept : ∀ happening ∈ happenings, happening.keepsTrace = true) :
    Told (.start plan.trace) ((start catalog curriculum plan).stepsAmong happenings)
      ((start catalog curriculum plan).afterHappenings happenings) := by
  -- The last happening comes after all the steps that are counted for its attempt.
  induction happenings using List.reverseRecOn with
  | nil =>
      have attends := Trace.Recorder.attends_start enabled unfiltered
      exact ⟨.refl attends, rfl, rfl⟩
  | append_singleton earlier happening ih =>
      have told := ih fun happening member => kept happening (List.mem_append_left _ member)
      rw [stepsAmong_append, afterHappenings_append]
      cases carried : happening.operation? with
      | none =>
          rw [stepsAmong, carried]
          change Told _ (_ ++ []) _
          rw [List.append_nil]
          exact told.aside (kept _ (List.mem_append_right _ (List.mem_singleton_self _))) carried
      | some operation =>
          obtain rfl := Happening.eq_of_operation? carried
          exact told.further (perform_transition _ operation)

end Told

end Told

section Unexchanged

variable {steps : List Step} (kept : ∀ step ∈ steps, step.log? = none)

include kept

theorem baseLog_of_kept : baseLog steps = .empty := by
  rw [baseLog, List.filterMap_eq_nil_iff.mpr kept]
  rfl

theorem sinceLog_of_kept : sinceLog steps = steps := by
  rw [sinceLog, List.rtakeWhile_eq_self_iff]
  intro step member
  rw [kept step member]
  rfl

end Unexchanged

/-- A trace that records everything from the start, and is neither switched off nor emptied, holds
the last events of the story, as many as there is room for, and every event has been given a
number.  The attempts in the trace are the last of the submitted ones.  Those since a log was put
in place are in the log, and all of them are if none was. -/
theorem story_recorded (catalog : Catalog) (curriculum : Curriculum) (plan : SessionPlan)
    (happenings : List Happening) (enabled : plan.trace.enabled = true)
    (unfiltered : plan.trace.filter = [])
    (kept : ∀ happening ∈ happenings, happening.keepsTrace = true) :
    let steps := (start catalog curriculum plan).stepsAmong happenings
    let session := (start catalog curriculum plan).afterHappenings happenings
    let records := session.recorder.window.records
    records.map Trace.Record.told = (story 0 steps).rtake plan.trace.capacity ∧
      session.recorder.window.nextId = (story 0 steps).length ∧
      records.filterMap (·.event.attempt?) <:+
        ((steps.filterMap Step.attempt?).map fun attempt =>
          (attempt.challengeId, attempt.correct)) ∧
      session.log.attempts =
        (baseLog steps).attempts ++ (sinceLog steps).filterMap Step.attempt? ∧
      ((∀ step ∈ steps, step.log? = none) →
        session.log.attempts = steps.filterMap Step.attempt?) := by
  intro steps session records
  have told : Told (.start plan.trace) steps session :=
    .of_happenings catalog curriculum enabled unfiltered kept
  have held : records.map Trace.Record.told = (story 0 steps).rtake plan.trace.capacity :=
    told.tells.held
  refine ⟨held, ?_, ?_, told.attempts, ?_⟩
  · rw [told.tells.nextId]
    exact Nat.zero_add _
  · rw [← attempts_story 0]
    have attempts : records.filterMap (·.event.attempt?) =
        (records.map Trace.Record.told).filterMap (·.2.attempt?) := by
      rw [List.filterMap_map]
      rfl
    rw [attempts, held]
    exact (List.drop_suffix _ _).filterMap _
  · intro unexchanged
    rw [told.attempts, baseLog_of_kept unexchanged, sinceLog_of_kept unexchanged]
    rfl

theorem story_recorded_saying :
    let plan : SessionPlan := ⟨7, 1, ⟨true, 4, false, false, []⟩, .annotate⟩
    let happenings : List Happening :=
      [.operation (.startFreeBuild .he), .order (.format true), .operation (.place 1 0),
        .operation (.place 2 1), .clock 5, .operation .submit, .operation (.say "Ko te whare")]
    let session := (start .standard .standard plan).afterHappenings happenings
    session.recorder.window.nextId = 7 ∧
      session.recorder.window.records.map Trace.Record.told =
        [(1, .attemptRecorded "free_he" false), (2, .patternDetected .ko),
          (2, .validationStart .ko "Ko te whare"),
          (2, .validationComplete .ko true true .success)] ∧
      session.log.attempts.map Attempt.challengeId = ["free_he"] := by
  intro plan happenings session
  have kept : ∀ happening ∈ happenings, happening.keepsTrace = true := by decide
  have whole : story 0 ((start .standard .standard plan).stepsAmong happenings) =
      [(1, .validationStart .he "He ngā"),
        (1, .gateRejected .he .noArticle "He sentences do NOT use te or ngā"),
        (1, .validationComplete .he false false .error), (1, .attemptRecorded "free_he" false),
        (2, .patternDetected .ko), (2, .validationStart .ko "Ko te whare"),
        (2, .validationComplete .ko true true .success)] := by
    decide +kernel
  obtain ⟨held, nextId, -, -, logged⟩ :=
    story_recorded .standard .standard plan happenings rfl rfl kept
  rw [whole] at held nextId
  refine ⟨nextId, held, ?_⟩
  rw [logged (by decide)]
  decide +kernel

end Session

end SentenceCards
