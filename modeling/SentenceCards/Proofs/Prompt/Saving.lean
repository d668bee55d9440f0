import SentenceCards.Proofs.Attempts.Packing
import SentenceCards.Proofs.Files.Folder
import SentenceCards.Prompt.Evaluation

/-!
# Saving a log and loading it

What is saved of a log is what is loaded (`run_save`, `run_load`), so a log that was saved is loaded
again as it was, in any session, as long as its file is left alone (`saved_log_restored`).
-/

namespace SentenceCards.Session

section Surrounded

variable {σ : Type} [Surroundings σ] {session : Session} {files later : σ} {path : String}

theorem run_save
    (written : Surroundings.write path session.log.toBytes files = (.ok (), later)) :
    (session.evaluate (.save path)).run files =
      (session.shows s!"Saved {session.log.attempts.length} attempts to {path}", later) := by
  simp [evaluate, evaluateSave, AttemptLog.save, written]

/-- A log was saved only if its bytes have been written. -/
theorem written_of_saved {shown : String}
    (saved : ((session.evaluate (.save path)).run files).1.result = .ok shown) :
    Surroundings.write path session.log.toBytes files =
      (.ok (), ((session.evaluate (.save path)).run files).2) := by
  rcases written : Surroundings.write path session.log.toBytes files with ⟨answer, later⟩
  cases answer with
  | ok => rw [run_save written]
  | error trouble =>
      cases trouble <;> simp [evaluate, evaluateSave, AttemptLog.save, written, fails] at saved

theorem run_load {log : AttemptLog} (fits : log.Fits)
    (held : Surroundings.read path files = (.ok log.toBytes, later)) :
    (session.evaluate (.load path)).run files =
      ((session.withLog log).shows s!"Loaded {log.attempts.length} attempts from {path}",
        later) := by
  simp [evaluate, evaluateLoad, AttemptLog.load, held, AttemptLog.ofBytes_toBytes fits]

end Surrounded

/-- A log is read back from its bytes, and so no other one has the same bytes.  Wherever its bytes
can be written it is saved, and it has been saved only if they were written.  Wherever they are
read, it is loaded.  So in a folder, when a log has been saved and its file is left alone, loading
it in any session puts that log in place, whatever has happened otherwise. -/
theorem saved_log_restored {log : AttemptLog} (fits : log.Fits) :
    AttemptLog.ofBytes log.toBytes = .ok log ∧
      (∀ other : AttemptLog, other.Fits → other ≠ log → other.toBytes ≠ log.toBytes) ∧
      (∀ (σ : Type) [Surroundings σ] (session : Session) (files later : σ) (path : String),
        (session.log = log → Surroundings.write path log.toBytes files = (.ok (), later) →
          (session.evaluate (.save path)).run files =
            (session.shows s!"Saved {log.attempts.length} attempts to {path}", later)) ∧
        (∀ shown, session.log = log →
          ((session.evaluate (.save path)).run files).1.result = .ok shown →
          (Surroundings.write path log.toBytes files).1 = .ok ()) ∧
        (Surroundings.read path files = (.ok log.toBytes, later) →
          (session.evaluate (.load path)).run files =
            ((session.withLog log).shows s!"Loaded {log.attempts.length} attempts from {path}",
              later))) ∧
      ∀ (session : Session) (folder : Folder) (path : String), session.log = log →
        let saved := (session.evaluate (.save path)).runIn folder
        ((folder.write path log.toBytes).1 = .ok () →
          saved.1 = session.shows s!"Saved {log.attempts.length} attempts to {path}") ∧
        ∀ (other : Session) (later : Folder) (shown : String), saved.1.result = .ok shown →
          later.read path = saved.2.read path →
          (other.evaluate (.load path)).runIn later =
            ((other.withLog log).shows s!"Loaded {log.attempts.length} attempts from {path}",
              later) := by
  refine ⟨AttemptLog.ofBytes_toBytes fits, ?_, ?_, ?_⟩
  · intro other otherFits different same
    exact different (AttemptLog.toBytes_injective otherFits fits same)
  · intro σ _ session files later path
    refine ⟨?_, ?_, run_load fits⟩
    · rintro rfl written
      exact run_save written
    · rintro shown rfl saved
      rw [written_of_saved saved]
  · rintro session folder path rfl saved
    constructor
    · intro written
      exact congrArg Prod.fst (run_save (Prod.ext written rfl))
    · intro other later shown succeeded untouched
      have written := written_of_saved succeeded
      have held : saved.2.read path = .ok session.log.toBytes := by
        have read := Folder.read_write (congrArg Prod.fst written)
        rwa [show folder.write path session.log.toBytes = (.ok (), saved.2) from written] at read
      exact run_load fits (Prod.ext (untouched.trans held) rfl)

theorem saved_log_restored_heWhare :
    let log : AttemptLog :=
      ⟨[⟨"c_1_2_1", [⟨"He", "particle_indefinite"⟩, ⟨"whare", "noun"⟩], true⟩],
        [⟨"lesson_1_2", "module_1", .inProgress, 300⟩]⟩
    let fresh := start .standard .standard .usual
    let saved := ((fresh.withLog log).evaluate (.save "attempts")).runIn .empty
    AttemptLog.empty.toBytes ≠ log.toBytes ∧
      ((fresh.evaluate (.load "attempts")).runIn saved.2).1.session = fresh.withLog log := by
  intro log fresh saved
  have named : Folder.empty.destination .writing "attempts" = .file "attempts" := by decide +kernel
  have written : (Folder.empty.write "attempts" log.toBytes).1 = .ok () := by
    rw [Folder.write, named]
  have fits : log.Fits := by decide
  obtain ⟨_, different, _, restored⟩ := saved_log_restored fits
  obtain ⟨succeeds, loads⟩ := restored (fresh.withLog log) .empty "attempts" rfl
  have succeeded : saved.1.result = .ok _ := congrArg Evaluated.result (succeeds written)
  constructor
  · exact different .empty (by decide) (by decide)
  · rw [loads fresh saved.2 _ succeeded rfl]
    rfl

end SentenceCards.Session
