import SentenceCards.Files.Folder
import SentenceCards.Proofs.Files.Exchange
import SentenceCards.Proofs.Session.History
import SentenceCards.Prompt.Evaluation

/-!
# Lines that fail

A line that cannot be carried out leaves the session as it was, whatever the files answer.  The one
exception is a sentence of catalog words that looks like no pattern: it still counts as an attempt
in the trace.
-/

namespace SentenceCards.Session

/-- Whether the command says a sentence of catalog words that looks like no pattern. -/
def saysUnrecognized (session : Session) : Command → Bool
  | .operate (.say text) =>
      match session.catalog.cardsOf text with
      | .ok cards => (detect cards).isNone
      | .error _ => false
  | _ => false

def lineSaysUnrecognized (session : Session) (line : String) : Bool :=
  match Command.read line with
  | .ok command => session.saysUnrecognized command
  | .error _ => false

def afterFailed (session : Session) (unrecognized : Bool) : Session :=
  if unrecognized then
    { session with recorder := { session.recorder with attempt := session.recorder.attempt + 1 } }
  else session

theorem saysUnrecognized_of_refusal {session : Session} {operation : Operation}
    {failure : Failure} (refusal : Refusal session operation failure) :
    session.saysUnrecognized (.operate operation) = false := by
  cases operation with
  | say text =>
      cases refusal with
      | inactive needed => exact absurd needed Bool.false_ne_true
      | unreadable unread => simp [saysUnrecognized, unread]
  | startLesson | startFreeBuild | place | take | reset | hint | submit | next | setLog => rfl

theorem session_of_failed_operation {session later : Session} {operation : Operation}
    {failure : Failure} (performed : session.perform operation = (.error failure, later)) :
    later = session.afterFailed (session.saysUnrecognized (.operate operation)) := by
  have transition := perform_transition session operation
  rw [performed] at transition
  cases transition with
  | refused refusal =>
      rw [saysUnrecognized_of_refusal refusal]
      rfl
  | @unrecognized text cards read shapeless =>
      have unrecognized : session.saysUnrecognized (.operate (.say text)) = true := by
        simp [saysUnrecognized, read, shapeless]
      rw [unrecognized]
      rfl

theorem session_of_failed_command {session : Session} {command : Command}
    {evaluated : Evaluated} {failure : Failure}
    (ends : (session.evaluate command).Ends evaluated)
    (failed : evaluated.result = .error failure) :
    evaluated.session = session.afterFailed (session.saysUnrecognized command) := by
  cases command with
  | help | lessons | listTrace | trace =>
      obtain rfl := Exchange.ends_done_iff.mp ends
      exact absurd failed (by simp [shows])
  | hand =>
      obtain rfl := Exchange.ends_done_iff.mp ends
      cases active : session.challenge? with
      | none => simp [evaluateHand, active_on_of_none active, saysUnrecognized, afterFailed]
      | some challenge => simp [evaluateHand, active_on_of_some active, Except.map] at failed
  | operate operation =>
      obtain rfl := Exchange.ends_done_iff.mp ends
      cases answered : (session.perform operation).1 with
      | ok answer => exact absurd failed (by simp [evaluateOperation, answered, Except.map])
      | error failure => exact session_of_failed_operation (Prod.ext answered rfl)
  | save path =>
      obtain ⟨saved, _, ends⟩ := Exchange.ends_bind_iff.mp ends
      cases saved with
      | ok =>
          obtain rfl := Exchange.ends_done_iff.mp ends
          exact absurd failed (by simp [shows])
      | error reason =>
          obtain rfl := Exchange.ends_done_iff.mp ends
          rfl
  | load path =>
      obtain ⟨loaded, _, ends⟩ := Exchange.ends_bind_iff.mp ends
      cases loaded with
      | ok log =>
          obtain rfl := Exchange.ends_done_iff.mp ends
          exact absurd failed (by simp [shows])
      | error reason =>
          obtain rfl := Exchange.ends_done_iff.mp ends
          rfl

theorem session_of_failed_line {session : Session} {line : String} {evaluated : Evaluated}
    {failure : Failure} (ends : (session.evaluateLine line).Ends evaluated)
    (failed : evaluated.result = .error failure) :
    evaluated.session = session.afterFailed (session.lineSaysUnrecognized line) := by
  unfold evaluateLine at ends
  unfold lineSaysUnrecognized
  cases command : Command.read line with
  | ok command =>
      rw [command] at ends
      exact session_of_failed_command ends failed
  | error reason =>
      rw [command] at ends
      obtain rfl := Exchange.ends_done_iff.mp ends
      rfl

theorem evaluated_of_refusal {session : Session} {line : String} {operation : Operation}
    {failure : Failure} (read : Command.read line = .ok (.operate operation))
    (refusal : Refusal session operation failure) {evaluated : Evaluated}
    (ends : (session.evaluateLine line).Ends evaluated) :
    evaluated = ⟨.error failure, session⟩ := by
  unfold evaluateLine at ends
  rw [read] at ends
  obtain rfl := Exchange.ends_done_iff.mp ends
  simp [evaluateOperation, perform_of_refusal refusal, Except.map]

/-- A file that cannot be read, or that holds no log, is not loaded. -/
theorem evaluated_of_unloadable {σ : Type} [Surroundings σ] {session : Session}
    {line path : String} {files : σ} (read : Command.read line = .ok (.load path))
    (unloadable : ∀ bytes, (Surroundings.read path files).1 = .ok bytes →
      ∃ failure, AttemptLog.ofBytes bytes = .error failure) :
    ∃ failure, ((session.evaluateLine line).run files).1 = ⟨.error failure, session⟩ := by
  unfold evaluateLine
  rw [read]
  cases file : (Surroundings.read path files).1 with
  | ok bytes =>
      obtain ⟨failure, undecoded⟩ := unloadable bytes file
      exact ⟨failure, by simp [evaluate, evaluateLoad, AttemptLog.load, file, undecoded, fails]⟩
  | error trouble =>
      cases trouble with
      | opening reason =>
          refine ⟨(Cause.fileTrouble s!"failed to open file '{path}': {reason}").failure, ?_⟩
          simp [evaluate, evaluateLoad, AttemptLog.load, file, fails]
      | reading reason =>
          refine ⟨(Cause.fileTrouble s!"failed to read file '{path}': {reason}").failure, ?_⟩
          simp [evaluate, evaluateLoad, AttemptLog.load, file, fails]

/-- A sentence of catalog words that looks like no pattern fails, and is counted as an attempt. -/
theorem evaluated_of_unrecognized {session : Session} {line : String}
    (said : session.lineSaysUnrecognized line = true) :
    ∃ failure, ∀ evaluated, (session.evaluateLine line).Ends evaluated →
      evaluated = ⟨.error failure, session.afterFailed true⟩ := by
  unfold lineSaysUnrecognized at said
  unfold evaluateLine
  cases command : Command.read line with
  | error failure => simp [command] at said
  | ok command =>
      simp only [command] at said
      unfold saysUnrecognized at said
      split at said
      next text =>
        cases read : session.catalog.cardsOf text with
        | error failure => simp [read] at said
        | ok cards =>
            have shapeless : detect cards = none := by simpa [read] using said
            refine ⟨(Cause.unknownPattern (sentence cards)).failure, ?_⟩
            intro evaluated ends
            obtain rfl := Exchange.ends_done_iff.mp ends
            simp only [evaluateOperation, (Transition.unrecognized read shapeless).perform_eq]
            rfl
      next => exact absurd said Bool.false_ne_true

/-- A line that fails leaves the session as it was, whatever the files answer, and only a said
sentence of catalog words that looks like no pattern is still counted as an attempt.  So it is
with every refused operation, and with a log that cannot be loaded. -/
theorem failed_line_keeps_session (session : Session) (line : String) :
    (∀ evaluated failure, (session.evaluateLine line).Ends evaluated →
      evaluated.result = .error failure →
      evaluated.session =
        if session.lineSaysUnrecognized line then
          { session with
            recorder := { session.recorder with attempt := session.recorder.attempt + 1 } }
        else session) ∧
      (∀ operation failure, Command.read line = .ok (.operate operation) →
        Refusal session operation failure →
        ∀ evaluated, (session.evaluateLine line).Ends evaluated →
          evaluated = ⟨.error failure, session⟩) ∧
      (∀ path folder, Command.read line = .ok (.load path) →
        (∀ bytes, folder.read path = .ok bytes →
          ∃ failure, AttemptLog.ofBytes bytes = .error failure) →
        ∃ failure, ((session.evaluateLine line).runIn folder).1 = ⟨.error failure, session⟩) ∧
      (session.lineSaysUnrecognized line = true →
        ∃ failure, ∀ evaluated, (session.evaluateLine line).Ends evaluated →
          evaluated.result = .error failure) := by
  refine ⟨?_, ?_, ?_, ?_⟩
  · intro evaluated failure ends failed
    exact session_of_failed_line ends failed
  · intro operation failure read refusal evaluated ends
    exact evaluated_of_refusal read refusal ends
  · intro path folder read unloadable
    exact evaluated_of_unloadable read unloadable
  · intro said
    obtain ⟨failure, fails⟩ := evaluated_of_unrecognized said
    refine ⟨failure, ?_⟩
    intro evaluated ends
    rw [fails evaluated ends]

/-- A session in a lesson, with one card placed. -/
def underWay : Session :=
  (start .standard .standard { SessionPlan.usual with decoys := 0 }).afterAll
    [.startLesson "lesson_1_2", .place 0 1]

theorem failed_line_keeps_session_underWay :
    let said := ((underWay.evaluateLine "whare").runIn .empty).1
    let placed := ((underWay.evaluateLine ":place 0 1").runIn .empty).1
    (underWay.lessonId = some "lesson_1_2" ∧ underWay.built.length = 1) ∧
      said.session = { underWay with recorder := { underWay.recorder with attempt := 1 } } ∧
      placed = ⟨.error (Cause.slotOccupied 1).failure, underWay⟩ := by
  intro said placed
  obtain ⟨begun, unrecognized, attempts, active, held, filled⟩ :
      (underWay.lessonId = some "lesson_1_2" ∧ underWay.built.length = 1) ∧
        underWay.lineSaysUnrecognized "whare" = true ∧ underWay.recorder.attempt + 1 = 1 ∧
        underWay.challenge?.isSome = true ∧ underWay.hand[0]?.isSome = true ∧
        underWay.slots.cells[1]?.join.isSome = true := by
    decide +kernel
  have command : Command.read ":place 0 1" = .ok (.operate (.place 0 1)) := by decide +kernel
  have refusal : Refusal underWay (.place 0 1) (Cause.slotOccupied 1).failure := by
    obtain ⟨challenge, active⟩ := Option.isSome_iff_exists.mp active
    obtain ⟨card, held⟩ := Option.isSome_iff_exists.mp held
    obtain ⟨other, filled⟩ := Option.isSome_iff_exists.mp filled
    exact .slotFilled active held (Option.join_eq_some_iff.mp filled)
  have saidEnds : (underWay.evaluateLine "whare").Ends said := Exchange.ends_run _ Folder.empty
  have placedEnds : (underWay.evaluateLine ":place 0 1").Ends placed :=
    Exchange.ends_run _ Folder.empty
  refine ⟨begun, ?_, ?_⟩
  · obtain ⟨keeps, _, _, fails⟩ := failed_line_keeps_session underWay "whare"
    obtain ⟨failure, failed⟩ := fails unrecognized
    rw [keeps said failure saidEnds (failed said saidEnds), if_pos unrecognized, attempts]
  · obtain ⟨_, refused, _⟩ := failed_line_keeps_session underWay ":place 0 1"
    exact refused (.place 0 1) _ command refusal placed placedEnds

end SentenceCards.Session
