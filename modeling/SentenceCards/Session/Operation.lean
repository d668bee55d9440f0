import SentenceCards.Session.Building
import SentenceCards.Session.Checking

/-!
# Operations

Whatever a learner does in a session is one of a few operations.  An operation is
answered, or it fails.  A failing one leaves the session as it is, except that a sentence
of known words that looks like no pattern is still counted as an attempt in the trace.
-/

namespace SentenceCards

/-- What can be done in a session. -/
inductive Operation where
  | startLesson (lessonId : String)
  | startFreeBuild (pattern : Pattern)
  | place (handIndex slot : Nat)
  | take (slot : Nat)
  | reset
  | hint
  | submit
  | next
  | say (text : String)
  /-- Goes on with another attempt log. -/
  | setLog (log : AttemptLog)
  deriving DecidableEq, Inhabited

/-- What an operation gives. -/
inductive Answer where
  /-- Nothing but the changed session. -/
  | done
  /-- The challenge that was entered; there is none after the last one. -/
  | challenge (challenge : Option Challenge)
  /-- The card that was taken back. -/
  | card (card : Card)
  | hint (hint : Option String)
  | submission (submission : Submission)
  | said (pattern : Pattern) (verdict : Verdict)
  deriving DecidableEq, Inhabited

namespace Session

/-- Carries out an operation. -/
def carryOut : Operation → Action Answer
  | .startLesson lessonId => return .challenge (some (← startLesson lessonId))
  | .startFreeBuild pattern => do
      modify (·.startFreeBuild pattern)
      return .challenge (← get).challenge?
  | .place handIndex slot => do
      place handIndex slot
      return .done
  | .take slot => return .card (← take slot)
  | .reset => do
      modify reset
      return .done
  | .hint => return .hint (← hint)
  | .submit => return .submission (← submit)
  | .next => return .challenge (← next)
  | .say text => do
      let (pattern, verdict) ← say text
      return .said pattern verdict
  | .setLog log => do
      modify (·.withLog log)
      return .done

/-- The answer to an operation, and the session afterwards. -/
def perform (session : Session) (operation : Operation) : Except Failure Answer × Session :=
  (carryOut operation).on session

/-- Carries out operations in order, failing ones among them. -/
def performAll (session : Session) : List Operation → List (Except Failure Answer) × Session
  | [] => ([], session)
  | operation :: rest =>
      let (answer, later) := session.perform operation
      let (answers, last) := later.performAll rest
      (answer :: answers, last)

theorem performAll_append (session : Session) (first second : List Operation) :
    session.performAll (first ++ second) =
      ((session.performAll first).1 ++ ((session.performAll first).2.performAll second).1,
        ((session.performAll first).2.performAll second).2) := by
  induction first generalizing session with
  | nil => rfl
  | cons operation rest ih =>
      simp only [List.cons_append, performAll]
      rw [ih]

end Session

end SentenceCards
