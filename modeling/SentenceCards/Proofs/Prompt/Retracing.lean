import SentenceCards.Proofs.Files.Clocked
import SentenceCards.Proofs.Session.Retracing
import SentenceCards.Prompt.Evaluation

/-!
# Lines in sessions with a changed trace

A line is evaluated in the same way whatever recording does not notice, unless it asks for the
records of the trace themselves (`Session.run_evaluate_retraced`).  So two sessions that are alike
but for times, and for lines of the trace that one of them has still to give away, stay alike when
the same line is evaluated in both of them, whatever the time is in each, and what is shown reads
alike (`Session.Alike.evaluateNow`).
-/

namespace SentenceCards

open Trace (Echo Recorder)

variable {σ : Type} [Surroundings σ]

/-- What has been evaluated, with the recorder of the session changed. -/
def Evaluated.retraced (evaluated : Evaluated) (change : Recorder → Recorder) : Evaluated :=
  { evaluated with session := evaluated.session.retraced change }

namespace Session

section Retraced

variable {change : Recorder → Recorder} (session : Session)

theorem answer_retraced (answer : Answer) :
    View.answer (session.retraced change) answer = View.answer session answer := by
  cases answer <;> rfl

theorem evaluateOperation_retraced (retells : Recorder.Retells change) (operation : Operation) :
    (session.retraced change).evaluateOperation operation =
      (session.evaluateOperation operation).retraced change := by
  have answers : View.answer ((session.perform operation).2.retraced change) =
      View.answer (session.perform operation).2 := funext (answer_retraced _)
  simp only [evaluateOperation, perform_retraced retells, answers]
  rfl

theorem evaluateHand_retraced :
    (session.retraced change).evaluateHand = session.evaluateHand.retraced change := by
  cases active : session.challenge? with
  | none =>
      have same : (session.retraced change).challenge? = none := active
      rw [evaluateHand, evaluateHand, active_on_of_none active, active_on_of_none same]
      rfl
  | some challenge =>
      have same : (session.retraced change).challenge? = some challenge := active
      rw [evaluateHand, evaluateHand, active_on_of_some active, active_on_of_some same]
      rfl

theorem run_evaluateSave_retraced (path : String) (files : σ) :
    ((session.retraced change).evaluateSave path).run files =
      (((session.evaluateSave path).run files).1.retraced change,
        ((session.evaluateSave path).run files).2) := by
  have log : (session.retraced change).log = session.log := rfl
  simp only [evaluateSave, Exchange.run_then, log]
  cases ((session.log.save path).run files).1 <;> rfl

theorem run_evaluateLoad_retraced (path : String) (files : σ) :
    ((session.retraced change).evaluateLoad path).run files =
      (((session.evaluateLoad path).run files).1.retraced change,
        ((session.evaluateLoad path).run files).2) := by
  simp only [evaluateLoad, Exchange.run_then]
  cases ((AttemptLog.load path).run files).1 <;> rfl

theorem run_evaluate_retraced (retells : Recorder.Retells change)
    (obeys : ∀ (recorder : Recorder) (order : Trace.Order),
      (change recorder).obey order = change (recorder.obey order))
    {command : Command} (unlisted : command ≠ .listTrace) (files : σ) :
    ((session.retraced change).evaluate command).run files =
      (((session.evaluate command).run files).1.retraced change,
        ((session.evaluate command).run files).2) := by
  cases command with
  | help | lessons => rfl
  | hand => exact congrArg (·, files) (evaluateHand_retraced session)
  | operate operation =>
      exact congrArg (·, files) (evaluateOperation_retraced session retells operation)
  | listTrace => exact absurd rfl unlisted
  | trace order =>
      exact congrArg
        (fun recorder => ((session.withRecorder recorder).shows (View.obeyed order), files))
        (obeys session.recorder order)
  | save path => exact run_evaluateSave_retraced session path files
  | load path => exact run_evaluateLoad_retraced session path files

end Retraced

section Clock

variable (session : Session)

theorem run_evaluateLine_clocked (line : String) (surroundings : Clocked σ) :
    (session.evaluateLine line).run surroundings =
      (((session.evaluateLine line).run surroundings.files).1,
        { surroundings with files := ((session.evaluateLine line).run surroundings.files).2 }) := by
  unfold evaluateLine
  cases Command.read line with
  | error failure => rfl
  | ok command =>
      cases command with
      | help | lessons | hand | operate | listTrace | trace => rfl
      | save path =>
          simp only [evaluate, evaluateSave, AttemptLog.save, Exchange.run_then,
            Exchange.run_ofWrite, Clocked.write_eq]
          cases (Surroundings.write path session.log.toBytes surroundings.files).1 with
          | ok => rfl
          | error trouble => cases trouble <;> rfl
      | load path =>
          simp only [evaluate, evaluateLoad, AttemptLog.load, Exchange.run_then,
            Exchange.run_ofRead, Clocked.read_eq]
          cases (Surroundings.read path surroundings.files).1 with
          | ok bytes => cases decoded : AttemptLog.ofBytes bytes <;> simp [decoded]
          | error trouble => cases trouble <;> rfl

theorem run_evaluateNow_clocked (line : String) (surroundings : Clocked σ) :
    let evaluated :=
      ((session.atTime (surroundings.clock 0)).evaluateLine line).run surroundings.files
    (session.evaluateNow line).run surroundings =
      (evaluated.1, ⟨evaluated.2, fun n => surroundings.clock (n + 1)⟩) := by
  intro evaluated
  show ((session.atTime (surroundings.clock 0)).evaluateLine line).run
    (⟨surroundings.files, fun n => surroundings.clock (n + 1)⟩ : Clocked σ) = _
  rw [run_evaluateLine_clocked]

end Clock

end Session

/-- Both results are texts that read alike, or the same failure. -/
inductive ResultsAlike : Except Failure String → Except Failure String → Prop where
  | shown {text other : String} (alike : Trace.ReadAlike text other) :
      ResultsAlike (.ok text) (.ok other)
  | failed (failure : Failure) : ResultsAlike (.error failure) (.error failure)

theorem ResultsAlike.refl (result : Except Failure String) : ResultsAlike result result := by
  cases result with
  | ok text => exact .shown (.inl rfl)
  | error failure => exact .failed failure

namespace Session

/-- The session with all times of its trace taken away. -/
def untimed (session : Session) : Session := session.retraced Recorder.untimed

/-- The session with earlier lines of its trace that wait to be collected. -/
def owing (session : Session) (earlier : List Echo) : Session := session.retraced (·.owing earlier)

/-- But for times, the second session is the first one without `earlier` lines of its trace, which
have been collected. -/
def Alike (earlier : List Echo) (session other : Session) : Prop :=
  session.untimed = (other.owing earlier).untimed

namespace Alike

variable {earlier : List Echo} {session other : Session}

theorem atTime (alike : Alike earlier session other) (now late : Nat) :
    Alike earlier (session.atTime now) (other.atTime late) := alike

theorem untimed_owing (session : Session) (earlier : List Echo) :
    (session.owing earlier).untimed =
      session.retraced (Recorder.untimed ∘ (Recorder.owing · earlier)) := rfl

/-- What is listed of the traces are the same records but for their times. -/
theorem listedTrace (alike : Alike earlier session other) :
    Trace.ReadAlike session.listedTrace other.listedTrace := by
  have settings : session.recorder.settings = other.recorder.settings :=
    congrArg (·.recorder.settings) alike
  have windows : session.recorder.window.untimed = other.recorder.window.untimed :=
    congrArg (·.recorder.window) alike
  have records : session.recorder.window.records.map Trace.Record.untimed =
      other.recorder.window.records.map Trace.Record.untimed := congrArg (·.records) windows
  have empty : session.recorder.window.records.isEmpty =
      other.recorder.window.records.isEmpty := by
    rw [← List.isEmpty_map (f := Trace.Record.untimed), records, List.isEmpty_map]
  unfold Session.listedTrace
  rw [empty]
  split
  · exact .inl rfl
  · refine .inr ⟨session.recorder.settings.json, _, other.recorder.window.recent listedRecords,
      ?_, rfl, ?_⟩
    · rw [← Trace.Window.recent_untimed, windows, Trace.Window.recent_untimed]
    · rw [settings]
      rfl

theorem evaluate (alike : Alike earlier session other) (command : Command) (files : σ) :
    let evaluated := (session.evaluate command).run files
    let evaluatedToo := (other.evaluate command).run files
    ResultsAlike evaluated.1.result evaluatedToo.1.result ∧
      Alike earlier evaluated.1.session evaluatedToo.1.session ∧
      evaluated.2 = evaluatedToo.2 := by
  intro evaluated evaluatedToo
  by_cases listed : command = .listTrace
  · subst listed
    exact ⟨.shown alike.listedTrace, alike, rfl⟩
  · have untimed := session.run_evaluate_retraced Recorder.retells_untimed
      (fun _ order => by cases order <;> rfl) listed files
    have untimedToo := other.run_evaluate_retraced
      (Recorder.retells_untimed.comp (Recorder.retells_owing earlier))
      (fun _ order => by cases order <;> rfl) listed files
    rw [show session.retraced Recorder.untimed = _ from alike, untimed_owing, untimedToo] at untimed
    obtain ⟨same, files⟩ := Prod.mk.inj untimed
    obtain ⟨results, sessions⟩ := Evaluated.mk.inj same
    refine ⟨?_, sessions.symm, files.symm⟩
    rw [show evaluated.1.result = evaluatedToo.1.result from results.symm]
    exact .refl _

theorem evaluateLine (alike : Alike earlier session other) (line : String) (files : σ) :
    let evaluated := (session.evaluateLine line).run files
    let evaluatedToo := (other.evaluateLine line).run files
    ResultsAlike evaluated.1.result evaluatedToo.1.result ∧
      Alike earlier evaluated.1.session evaluatedToo.1.session ∧
      evaluated.2 = evaluatedToo.2 := by
  unfold Session.evaluateLine
  cases Command.read line with
  | ok command => exact alike.evaluate command files
  | error failure => exact ⟨.failed failure, alike, rfl⟩

/-- Amid the same files, whatever the clocks show. -/
theorem evaluateNow (alike : Alike earlier session other) (line : String)
    {here there : Clocked σ} (files : here.files = there.files) :
    let evaluated := (session.evaluateNow line).run here
    let evaluatedToo := (other.evaluateNow line).run there
    ResultsAlike evaluated.1.result evaluatedToo.1.result ∧
      Alike earlier evaluated.1.session evaluatedToo.1.session ∧
      evaluated.2.files = evaluatedToo.2.files := by
  simp only [run_evaluateNow_clocked, files]
  exact (alike.atTime _ _).evaluateLine line there.files

end Alike

end Session

end SentenceCards
