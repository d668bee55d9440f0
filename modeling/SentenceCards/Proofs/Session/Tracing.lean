import SentenceCards.Curriculum.Standard
import SentenceCards.Proofs.Session.History
import SentenceCards.Proofs.Session.Retracing
import SentenceCards.Proofs.Trace.Recording

/-!
# The trace is not felt

While a learner works in a session, its trace may be switched, emptied and shown in another form,
and time goes by.  None of this is felt: but for what the trace holds, the session goes on as it
would if nothing were traced (`untraced_run`), and so do two sessions whose traces are kept in
different ways (`trace_not_felt`).
-/

namespace SentenceCards

/-- What can happen to a session. -/
inductive Happening where
  | operation (operation : Operation)
  | order (order : Trace.Order)
  /-- Time goes by: what is recorded from now on is recorded at this time. -/
  | clock (time : Nat)
  deriving DecidableEq, Inhabited

def Happening.operation? : Happening → Option Operation
  | .operation carried => some carried
  | .order _ | .clock _ => none

theorem Happening.eq_of_operation? {happening : Happening} {operation : Operation}
    (carried : happening.operation? = some operation) : happening = .operation operation := by
  cases happening with
  | operation other => exact congrArg Happening.operation (Option.some.inj carried)
  | order | clock => cases carried

namespace Session

def after (session : Session) : Happening → Session
  | .operation operation => (session.perform operation).2
  | .order order => session.orderTrace order
  | .clock time => session.atTime time

def afterHappenings (session : Session) : List Happening → Session
  | [] => session
  | happening :: rest => (session.after happening).afterHappenings rest

/-- The operations among what happens, each with the session in which it is carried out. -/
def stepsAmong (session : Session) : List Happening → List Step
  | [] => []
  | happening :: rest =>
      (happening.operation?.map (Step.mk session)).toList ++ (session.after happening).stepsAmong rest

theorem afterHappenings_append (session : Session) (first second : List Happening) :
    session.afterHappenings (first ++ second) =
      (session.afterHappenings first).afterHappenings second := by
  induction first generalizing session with
  | nil => rfl
  | cons happening rest ih => exact ih (session.after happening)

theorem stepsAmong_append (session : Session) (first second : List Happening) :
    session.stepsAmong (first ++ second) =
      session.stepsAmong first ++ (session.afterHappenings first).stepsAmong second := by
  induction first generalizing session with
  | nil => rfl
  | cons happening rest ih =>
      rw [List.cons_append, stepsAmong, stepsAmong, ih, List.append_assoc]
      rfl

/-- The session with a trace in which nothing is recorded.  Only the number of the current attempt
is kept. -/
def untraced (session : Session) : Session :=
  session.withRecorder { Trace.Recorder.start .usual with attempt := session.recorder.attempt }

section Untraced

variable {session other : Session}

theorem retells_forgotten :
    Trace.Recorder.Retells fun recorder =>
      { Trace.Recorder.start .usual with attempt := recorder.attempt } where
  nextAttempt := fun _ => rfl
  record := by
    intro recorder event
    rw [recorder.attempt_record]
    rfl

theorem perform_untraced (session : Session) (operation : Operation) :
    session.untraced.perform operation =
      ((session.perform operation).1, (session.perform operation).2.untraced) :=
  perform_retraced retells_forgotten session operation

theorem perform_of_untraced (same : session.untraced = other.untraced) (operation : Operation) :
    (session.perform operation).1 = (other.perform operation).1 ∧
      (session.perform operation).2.untraced = (other.perform operation).2.untraced := by
  have performed := session.perform_untraced operation
  rw [same, other.perform_untraced] at performed
  obtain ⟨answer, later⟩ := Prod.mk.inj performed
  exact ⟨answer.symm, later.symm⟩

theorem untraced_after {happening : Happening} (still : happening.operation? = none) :
    (session.after happening).untraced = session.untraced := by
  cases happening with
  | operation operation => simp [Happening.operation?] at still
  | order order =>
      exact congrArg (fun attempt => session.withRecorder
        { Trace.Recorder.start .usual with attempt := attempt })
        (Trace.Recorder.attempt_obey session.recorder order)
  | clock time => rfl

end Untraced

/-- What the learner sees of a step: the answer, and the session afterwards but for its trace. -/
def Step.felt (step : Step) : Except Failure Answer × Session := (step.answer, step.after.untraced)

/-- Whatever happens to the trace, a session goes on as if only its operations were carried out, in
a session that differs in its trace at most. -/
theorem untraced_run {session other : Session} (same : session.untraced = other.untraced)
    (happenings : List Happening) :
    (session.stepsAmong happenings).map Step.felt =
        (other.steps (happenings.filterMap Happening.operation?)).map Step.felt ∧
      (session.afterHappenings happenings).untraced =
        (other.afterAll (happenings.filterMap Happening.operation?)).untraced := by
  induction happenings generalizing session other with
  | nil => exact ⟨rfl, same⟩
  | cons happening rest ih =>
      cases carried : happening.operation? with
      | none =>
          rw [List.filterMap_cons_none carried, stepsAmong, carried]
          exact ih ((untraced_after carried).trans same)
      | some operation =>
          obtain rfl := Happening.eq_of_operation? carried
          obtain ⟨answer, after⟩ := perform_of_untraced same operation
          obtain ⟨steps, last⟩ := ih after
          rw [List.filterMap_cons_some carried, stepsAmong, carried]
          exact ⟨congrArg₂ List.cons (Prod.ext answer after) steps, last⟩

/-- Two sessions that differ in their traces at most give the same answers to the same operations,
and still differ in their traces at most after each of them and in the end, in whatever ways the
traces are looked after in the meantime.  The number of the current attempt is the same too. -/
theorem trace_not_felt (catalog : Catalog) (curriculum : Curriculum) (plan other : SessionPlan)
    (seed : plan.seed = other.seed) (decoys : plan.decoys = other.decoys)
    (style : plan.style = other.style) (happenings others : List Happening)
    (same : happenings.filterMap Happening.operation? = others.filterMap Happening.operation?) :
    let session := start catalog curriculum plan
    let otherSession := start catalog curriculum other
    (session.stepsAmong happenings).map Step.felt =
        (otherSession.stepsAmong others).map Step.felt ∧
      (session.afterHappenings happenings).untraced =
        (otherSession.afterHappenings others).untraced := by
  intro session otherSession
  have alike : session.untraced = otherSession.untraced := by
    simp only [session, otherSession, start, untraced, withRecorder, seed, decoys, style]
    rfl
  obtain ⟨steps, last⟩ := untraced_run (rfl : session.untraced = session.untraced) happenings
  obtain ⟨otherSteps, otherLast⟩ := untraced_run alike.symm others
  rw [same] at steps last
  exact ⟨steps.trans otherSteps.symm, last.trans otherLast.symm⟩

theorem trace_not_felt_switched :
    let kept : SessionPlan := ⟨7, 1, ⟨true, 0, true, true, ["hint-issued"]⟩, .pluralize⟩
    let unkept : SessionPlan := ⟨7, 1, .usual, .pluralize⟩
    let happenings : List Happening :=
      [.operation (.startFreeBuild .he), .order (.switch false), .operation (.place 1 0),
        .operation .hint, .order .clear, .operation (.place 2 1), .operation .submit]
    let others : List Happening :=
      [.order (.switch true), .operation (.startFreeBuild .he), .clock 5,
        .operation (.place 1 0), .operation .hint, .order (.format true),
        .operation (.place 2 1), .operation .submit]
    let session := start .standard .standard kept
    let otherSession := start .standard .standard unkept
    (otherSession.afterHappenings others).recorder.window.records.length = 5 ∧
      (session.stepsAmong happenings).map Step.felt =
        (otherSession.stepsAmong others).map Step.felt := by
  intro kept unkept happenings others session otherSession
  refine ⟨?_, ?_⟩
  · decide +kernel
  · exact (trace_not_felt .standard .standard kept unkept rfl rfl rfl happenings others rfl).1

end Session

end SentenceCards
