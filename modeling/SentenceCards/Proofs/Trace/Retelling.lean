import SentenceCards.Trace.Recorder

/-!
# Recorders with a changed trace

A recorder may be changed in ways that recording does not notice: it goes on after the change as it
would have gone on before it (`Recorder.Retells`).  Taking the times away is such a change, and so is
having earlier lines wait to be collected.
-/

namespace SentenceCards.Trace

def Record.untimed (record : Record) : Record := { record with time := 0 }

def Echo.untimed (echo : Echo) : Echo := { echo with record := echo.record.untimed }

/-- The texts are the same, or both show the same records but for their times. -/
def ReadAlike (text other : String) : Prop :=
  text = other ∨
    ∃ json records others, records.map Record.untimed = others.map Record.untimed ∧
      text = shownRecords json records ∧ other = shownRecords json others

theorem Record.line_ne_empty (style : LineStyle) (record : Record) : record.line style ≠ "" := by
  simp [line, toString]

theorem shownRecords_eq_empty {json : Bool} {records : List Record} :
    shownRecords json records = "" ↔ json = false ∧ records = [] := by
  cases json with
  | true => simp [shownRecords, jsonText]
  | false =>
      match records with
      | [] => simp [shownRecords, lines]
      | [record] => simp [shownRecords, lines, record.line_ne_empty]
      | record :: next :: rest => simp [shownRecords, lines]

theorem ReadAlike.eq_empty_iff {text other : String} (alike : ReadAlike text other) :
    text = "" ↔ other = "" := by
  rcases alike with rfl | ⟨json, records, others, same, rfl, rfl⟩
  · rfl
  · have empty : records = [] ↔ others = [] := by
      rw [← List.map_eq_nil_iff (f := Record.untimed), same, List.map_eq_nil_iff]
    rw [shownRecords_eq_empty, shownRecords_eq_empty, empty]

namespace Window

def untimed (window : Window) : Window :=
  { window with records := window.records.map Record.untimed }

variable (window : Window)

theorem push_untimed (attempt time : Nat) (event : Event) :
    window.untimed.push attempt 0 event = (window.push attempt time event).untimed := by
  simp [push, untimed, Record.untimed, List.map_drop]

theorem recent_untimed (count : Nat) :
    window.untimed.recent count = (window.recent count).map Record.untimed := by
  simp [recent, untimed, List.map_drop]

theorem last?_untimed : window.untimed.last? = window.last?.map Record.untimed :=
  List.getLast?_map

end Window

namespace Recorder

/-- Recording does not notice the change. -/
structure Retells (change : Recorder → Recorder) : Prop where
  nextAttempt : ∀ recorder : Recorder,
    (change recorder).nextAttempt = change recorder.nextAttempt
  record : ∀ (recorder : Recorder) (event : Event),
    (change recorder).record event = change (recorder.record event)

namespace Retells

variable {change other : Recorder → Recorder}

theorem recordAll (retells : Retells change) (recorder : Recorder) (events : List Event) :
    (change recorder).recordAll events = change (recorder.recordAll events) := by
  induction events generalizing recorder with
  | nil => rfl
  | cons event rest ih =>
      show ((change recorder).record event).recordAll rest = _
      rw [retells.record]
      exact ih (recorder.record event)

theorem comp (retells : Retells change) (retellsToo : Retells other) :
    Retells (change ∘ other) where
  nextAttempt := by
    intro recorder
    rw [Function.comp_apply, retells.nextAttempt, retellsToo.nextAttempt, Function.comp_apply]
  record := by
    intro recorder event
    rw [Function.comp_apply, retells.record, retellsToo.record, Function.comp_apply]

end Retells

/-- The recorder with all times taken away. -/
def untimed (recorder : Recorder) : Recorder :=
  { recorder with
    window := recorder.window.untimed
    time := 0
    echoes := recorder.echoes.map Echo.untimed }

theorem echoOf_untimed (recorder : Recorder) :
    recorder.untimed.echoOf = recorder.echoOf.map Echo.untimed := by
  unfold echoOf
  have same : recorder.untimed.settings = recorder.settings := rfl
  rw [same]
  split
  · rw [show recorder.untimed.window.last? = _ from recorder.window.last?_untimed]
    cases recorder.window.last? <;> rfl
  · rfl

theorem echoing_untimed (recorder : Recorder) :
    { recorder.untimed with echoes := recorder.untimed.echoes ++ recorder.untimed.echoOf } =
      untimed { recorder with echoes := recorder.echoes ++ recorder.echoOf } := by
  rw [echoOf_untimed]
  simp only [untimed, List.map_append]

theorem pushing_untimed (recorder : Recorder) (event : Event) :
    { recorder.untimed with window := recorder.untimed.window.push recorder.attempt 0 event } =
      untimed { recorder with
        window := recorder.window.push recorder.attempt recorder.time event } := by
  simp only [untimed, recorder.window.push_untimed recorder.attempt recorder.time]

theorem retells_untimed : Retells untimed where
  nextAttempt := fun _ => rfl
  record := by
    intro recorder event
    have admitted : admits recorder.untimed.settings event = admits recorder.settings event := rfl
    unfold record
    rw [admitted]
    split
    · refine .trans ?_ (echoing_untimed _)
      exact congrArg (fun later : Recorder => { later with echoes := later.echoes ++ later.echoOf })
        (pushing_untimed recorder event)
    · rfl

/-- The recorder with earlier lines that wait to be collected. -/
def owing (recorder : Recorder) (earlier : List Echo) : Recorder :=
  { recorder with echoes := earlier ++ recorder.echoes }

theorem retells_owing (earlier : List Echo) : Retells (owing · earlier) where
  nextAttempt := fun _ => rfl
  record := by
    intro recorder event
    have admitted : admits (recorder.owing earlier).settings event =
        admits recorder.settings event := rfl
    unfold record
    rw [admitted]
    split
    · exact congrArg ({ recorder with
          window := recorder.window.push recorder.attempt recorder.time event, echoes := · })
        (List.append_assoc _ _ _)
    · rfl

end Recorder

end SentenceCards.Trace
