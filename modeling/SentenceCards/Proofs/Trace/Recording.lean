import SentenceCards.Proofs.Trace.Window
import SentenceCards.Trace.Recorder

/-!
# What a recorder has recorded

The number of the attempt is not changed by recording.  A recorder that records every event tells
them in order, each under the number of its attempt (`Recorder.Tells`), as far as there is room.
-/

namespace SentenceCards.Trace

/-- What a record tells: the number of the attempt, and the event. -/
def Record.told (record : Record) : Nat × Event := (record.attempt, record.event)

/-- The challenge and the result of an attempt that was logged. -/
def Event.attempt? : Event → Option (String × Bool)
  | .attemptRecorded challenge correct => some (challenge, correct)
  | _ => none

namespace Recorder

section Kept

variable (recorder : Recorder)

theorem attempt_record (event : Event) : (recorder.record event).attempt = recorder.attempt := by
  unfold record
  split <;> rfl

theorem attempt_recordAll (events : List Event) :
    (recorder.recordAll events).attempt = recorder.attempt := by
  induction events generalizing recorder with
  | nil => rfl
  | cons event rest ih => exact (ih _).trans (attempt_record recorder event)

theorem attempt_obey (order : Order) : (recorder.obey order).attempt = recorder.attempt := by
  cases order <;> rfl

theorem settings_record (event : Event) :
    (recorder.record event).settings = recorder.settings := by
  unfold record
  split <;> rfl

end Kept

/-- Every event is recorded, and no more records are held than there is room for. -/
structure Attends (recorder : Recorder) : Prop where
  enabled : recorder.settings.enabled = true
  unfiltered : recorder.settings.filter = []
  bounded : recorder.window.records.length ≤ recorder.window.capacity

theorem attends_start {settings : Settings} (enabled : settings.enabled = true)
    (unfiltered : settings.filter = []) : (start settings).Attends :=
  ⟨enabled, unfiltered, Nat.zero_le _⟩

theorem Attends.window_record {recorder : Recorder} (attends : recorder.Attends) (event : Event) :
    (recorder.record event).window =
      recorder.window.push recorder.attempt recorder.time event := by
  have admitted : admits recorder.settings event = true := by
    simp [admits, attends.enabled, attends.unfiltered]
  simp only [record, admitted, if_true]

/-- From one time to a later one, this has been recorded. -/
structure Tells (before later : Recorder) (told : List (Nat × Event)) : Prop where
  attends : later.Attends
  capacity : later.window.capacity = before.window.capacity
  held : later.window.records.map Record.told =
    (before.window.records.map Record.told ++ told).rtake before.window.capacity
  nextId : later.window.nextId = before.window.nextId + told.length

namespace Tells

variable {first before later : Recorder} {told more : List (Nat × Event)}

/-- Nothing is told when the records and the conditions for recording stay as they are. -/
theorem nothing (attends : before.Attends) (window : later.window = before.window)
    (enabled : later.settings.enabled = true)
    (unfiltered : later.settings.filter = before.settings.filter) : Tells before later [] where
  attends := ⟨enabled, unfiltered.trans attends.unfiltered, window ▸ attends.bounded⟩
  capacity := by rw [window]
  held := by
    rw [window, List.append_nil, rtake_eq_self]
    rw [List.length_map]
    exact attends.bounded
  nextId := by rw [window, List.length_nil, Nat.add_zero]

theorem refl (attends : before.Attends) : Tells before before [] :=
  nothing attends rfl attends.enabled rfl

theorem nextAttempt (attends : before.Attends) : Tells before before.nextAttempt [] :=
  nothing attends rfl attends.enabled rfl

theorem trans (one : Tells first before told) (other : Tells before later more) :
    Tells first later (told ++ more) where
  attends := other.attends
  capacity := other.capacity.trans one.capacity
  held := by rw [other.held, one.held, one.capacity, rtake_rtake_append, List.append_assoc]
  nextId := by rw [other.nextId, one.nextId, List.length_append, Nat.add_assoc]

theorem record (attends : before.Attends) (event : Event) :
    Tells before (before.record event) [(before.attempt, event)] := by
  have window := attends.window_record event
  have records : (before.record event).window.records =
      (before.window.records ++
        [Record.mk before.window.nextId before.attempt before.time event]).rtake
          before.window.capacity := by
    rw [window]
    rfl
  constructor
  · constructor
    · rw [settings_record, attends.enabled]
    · rw [settings_record, attends.unfiltered]
    · rw [records, length_rtake, window]
      exact Nat.min_le_left _ _
  · rw [window]
    rfl
  -- What there is no room for is dropped from the records and from what they tell alike.
  · rw [records, map_rtake, List.map_append]
    rfl
  · rw [window]
    rfl

theorem recordAll (attends : before.Attends) (events : List Event) :
    Tells before (before.recordAll events) (events.map (before.attempt, ·)) := by
  induction events generalizing before with
  | nil => exact refl attends
  | cons event rest ih =>
      have one := record attends event
      have others := ih one.attends
      rw [attempt_record] at others
      exact one.trans others

end Tells

end Recorder

/-- What is told of the judging of a sentence. -/
def judgingTold (pattern : Pattern) (cards : List Card) (verdict : Verdict) : List Event :=
  let begun := Event.validationStart pattern (sentence cards)
  let ended :=
    Event.validationComplete pattern verdict.valid verdict.correct verdict.feedback.tone
  match verdict.outcome with
  | .rejected gate => [begun, .gateRejected pattern gate verdict.feedback.message, ended]
  | .accepted .. => [begun, ended]

theorem judgingEvents_eq (pattern : Pattern) (cards : List Card) (verdict : Verdict) :
    judgingEvents pattern cards verdict = judgingTold pattern cards verdict := by
  unfold judgingEvents judgingTold Verdict.gate?
  cases verdict.outcome <;> rfl

theorem attempts_judgingTold (pattern : Pattern) (cards : List Card) (verdict : Verdict) :
    (judgingTold pattern cards verdict).filterMap Event.attempt? = [] := by
  unfold judgingTold
  cases verdict.outcome <;> rfl

end SentenceCards.Trace
