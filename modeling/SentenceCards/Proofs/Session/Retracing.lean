import SentenceCards.Proofs.Session.Transition
import SentenceCards.Proofs.Trace.Retelling

/-!
# Sessions with a changed trace

If recording does not notice a change of the recorder, no operation of the session does: it ends in
the same way, and the recorder afterwards is the changed one (`Transition.retraced`).
-/

namespace SentenceCards.Session

def withRecorder (session : Session) (recorder : Trace.Recorder) : Session :=
  { session with recorder := recorder }

/-- The session with its recorder changed. -/
def retraced (session : Session) (change : Trace.Recorder → Trace.Recorder) : Session :=
  session.withRecorder (change session.recorder)

section WithRecorder

variable {session : Session} {operation : Operation}

theorem Refusal.withRecorder {failure : Failure} (refusal : Refusal session operation failure)
    (recorder : Trace.Recorder) : Refusal (session.withRecorder recorder) operation failure := by
  cases refusal with
  | unknownLesson absent => exact .unknownLesson absent
  | emptyLesson found empty => exact .emptyLesson found empty
  | inactive needed absent => exact .inactive needed absent
  | noCard active absent => exact .noCard active absent
  | noSlotToFill active held absent => exact .noSlotToFill active held absent
  | slotFilled active held filled => exact .slotFilled active held filled
  | noSlotToEmpty absent => exact .noSlotToEmpty absent
  | nothingToTake free => exact .nothingToTake free
  | incomplete active gapped => exact .incomplete active gapped
  | unreadable unread => exact .unreadable unread

theorem noteProgress_withRecorder (recorder : Trace.Recorder) (completed : Bool) :
    (session.withRecorder recorder).noteProgress completed =
      (session.noteProgress completed).withRecorder recorder := by
  unfold noteProgress
  cases known : session.lessonId.bind session.curriculum.lesson? with
  | none => simp only [Session.withRecorder, known]
  | some lesson => simp only [Session.withRecorder, known]

theorem afterSubmission_withRecorder (recorder : Trace.Recorder) (challenge : Challenge) :
    (session.withRecorder recorder).afterSubmission challenge =
      (session.afterSubmission challenge).withRecorder
        ((session.withRecorder recorder).afterSubmission challenge).recorder := by
  -- Without the recorder, the same session is about to note the progress.
  let submission := session.submission challenge
  let scored : Session :=
    { session.earn submission.points with
      log := session.log.record challenge.id session.built submission.verdict.correct }
  have ends (origin : Trace.Recorder) :
      (session.withRecorder origin).afterSubmission challenge =
        (scored.noteProgress submission.lessonComplete).withRecorder
          ((session.withRecorder origin).afterSubmission challenge).recorder := by
    rw [recorder_afterSubmission, ← noteProgress_withRecorder]
    rfl
  rw [ends recorder, show session.afterSubmission challenge = _ from ends session.recorder]
  rfl

end WithRecorder

section Retells

variable {change : Trace.Recorder → Trace.Recorder} (retells : Trace.Recorder.Retells change)

include retells

theorem nextAttempt_retraced (session : Session) :
    (session.retraced change).recorder.nextAttempt = change session.recorder.nextAttempt :=
  retells.nextAttempt session.recorder

theorem afterSubmission_retraced (session : Session) (challenge : Challenge) :
    (session.retraced change).afterSubmission challenge =
      (session.afterSubmission challenge).retraced change := by
  have recorder : ((session.retraced change).afterSubmission challenge).recorder =
      change (session.afterSubmission challenge).recorder := by
    rw [recorder_afterSubmission, recorder_afterSubmission, ← retells.record, ← retells.recordAll,
      ← retells.nextAttempt]
    rfl
  rw [retraced, afterSubmission_withRecorder, retraced, ← recorder]
  rfl

theorem Transition.retraced {session later : Session} {operation : Operation}
    {answer : Except Failure Answer} (transition : Transition session operation answer later) :
    Transition (session.retraced change) operation answer (later.retraced change) := by
  cases transition with
  | refused refusal => exact .refused (refusal.withRecorder _)
  | unrecognized read shapeless =>
      have ends : Transition (session.retraced change) _ _ _ := .unrecognized read shapeless
      rw [nextAttempt_retraced retells] at ends
      exact ends
  | said read detected =>
      have ends : Transition (session.retraced change) _ _ _ := .said read detected
      rw [nextAttempt_retraced retells, retells.recordAll, retells.recordAll] at ends
      exact ends
  | lessonStarted found listed => exact .lessonStarted found listed
  | freeBuildStarted pattern => exact .freeBuildStarted pattern
  | placed active held free => exact .placed active held free
  | taken filled => exact .taken filled
  | cleared => exact .cleared
  | hinted active =>
      have ends : Transition (session.retraced change) _ _ _ := .hinted active
      have same : (session.retraced change).recorder = change session.recorder := rfl
      rw [same, retells.recordAll] at ends
      exact ends
  | submitted active ready =>
      rw [← afterSubmission_retraced retells]
      exact .submitted active ready
  | advanced active further => exact .advanced active further
  | atEnd active last => exact .atEnd active last
  | logSet log => exact .logSet log

theorem perform_retraced (session : Session) (operation : Operation) :
    (session.retraced change).perform operation =
      ((session.perform operation).1, (session.perform operation).2.retraced change) :=
  (Transition.retraced retells (perform_transition session operation)).perform_eq

end Retells

end SentenceCards.Session
