import Mathlib.Data.List.DropRight
import SentenceCards.Proofs.Session.Transition

/-!
# The history of a session

A run is a list of operations, carried out one after the other.  Its steps keep the session
before each operation, so that what has happened can be counted afterwards.  Everything that
holds at the start and is kept by every transition holds after every run (`run_induction`).
-/

namespace SentenceCards.Session

/-- An operation of a run, with the session in which it was carried out. -/
structure Step where
  before : Session
  operation : Operation

namespace Step

def answer (step : Step) : Except Failure Answer := (step.before.perform step.operation).1

def after (step : Step) : Session := (step.before.perform step.operation).2

theorem answer_eq {before later : Session} {operation : Operation}
    {answer : Except Failure Answer} (transition : Transition before operation answer later) :
    (Step.mk before operation).answer = answer := by
  rw [Step.answer, transition.perform_eq]

theorem after_eq {before later : Session} {operation : Operation}
    {answer : Except Failure Answer} (transition : Transition before operation answer later) :
    (Step.mk before operation).after = later := by
  rw [Step.after, transition.perform_eq]

end Step

def afterAll (session : Session) (operations : List Operation) : Session :=
  (session.performAll operations).2

def steps (session : Session) : List Operation → List Step
  | [] => []
  | operation :: rest => ⟨session, operation⟩ :: (session.perform operation).2.steps rest

theorem afterAll_cons (session : Session) (operation : Operation) (rest : List Operation) :
    session.afterAll (operation :: rest) = (session.perform operation).2.afterAll rest := rfl

theorem afterAll_append (session : Session) (first second : List Operation) :
    session.afterAll (first ++ second) = (session.afterAll first).afterAll second := by
  simp only [afterAll, performAll_append]

theorem steps_append (session : Session) (first second : List Operation) :
    session.steps (first ++ second) =
      session.steps first ++ (session.afterAll first).steps second := by
  induction first generalizing session with
  | nil => rfl
  | cons operation rest ih =>
      simp only [List.cons_append, steps, afterAll_cons]
      rw [ih]

theorem map_answer_steps (session : Session) (operations : List Operation) :
    (session.steps operations).map Step.answer = (session.performAll operations).1 := by
  induction operations generalizing session with
  | nil => rfl
  | cons operation rest ih => exact congrArg ((session.perform operation).1 :: ·) (ih _)

/-- What holds before the first step and is kept by every further one holds after every run. -/
theorem run_induction (holds : List Step → Session → Prop) (session : Session)
    (initial : holds [] session)
    (further : ∀ {earlier : List Step} {before later : Session} {operation : Operation}
      {answer : Except Failure Answer},
      Transition before operation answer later →
      holds earlier before → holds (earlier ++ [⟨before, operation⟩]) later)
    (operations : List Operation) :
    holds (session.steps operations) (session.afterAll operations) := by
  induction operations using List.reverseRecOn with
  | nil => exact initial
  | append_singleton earlier operation ih =>
      rw [steps_append, afterAll_append]
      exact further (perform_transition (session.afterAll earlier) operation) ih

end SentenceCards.Session
