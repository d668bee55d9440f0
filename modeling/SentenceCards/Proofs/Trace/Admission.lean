import SentenceCards.Proofs.Trace.Grouping
import SentenceCards.Proofs.Trace.Recording

/-!
# What is admitted to a trace

Whatever a recorder is called for, an event is recorded when the recorder is switched on at that
moment and the filter lets it through, and then it gets the number of the attempt that is under
way.  The records of an attempt are therefore a block of the trace, and later attempts come after
earlier ones (`Recorder.recorded_when_admitted`).
-/

namespace SentenceCards.Trace

/-- What a recorder can be called for. -/
inductive Call where
  | order (order : Order)
  | nextAttempt
  /-- Time goes by. -/
  | clock (time : Nat)
  | record (event : Event)
  | report (event : Event)
  | judge (pattern : Pattern) (style : PluralStyle) (cards : List Card) (target : Option Target)
  | hint (pattern : Pattern) (cards : List Card)
  | detect (cards : List Card)

/-- The events that are offered to a recorder, in order. -/
def Call.events : Call → List Event
  | .order _ | .nextAttempt | .clock _ => []
  | .record event | .report event => [event]
  | .judge pattern style cards target =>
      judgingTold pattern cards (pattern.judge style cards target)
  | .hint pattern cards => ((pattern.hint cards).map (.hintIssued pattern)).toList
  | .detect cards => ((SentenceCards.detect cards).map .patternDetected).toList

/-- What counts when an event is offered: whether the recorder is switched on, the attempt that is
under way, and the time. -/
structure Moment where
  on : Bool
  attempt : Nat
  time : Nat

namespace Moment

def after (moment : Moment) : Call → Moment
  | .order (.switch on) => { moment with on := on }
  | .nextAttempt => { moment with attempt := moment.attempt + 1 }
  | .clock time => { moment with time := time }
  | _ => moment

/-- The recorder is on, and the filter is empty or names the kind of the event. -/
def Admits (moment : Moment) (filter : List String) (event : Event) : Prop :=
  moment.on = true ∧ (filter = [] ∨ event.kind.name ∈ filter)

instance (moment : Moment) (filter : List String) (event : Event) :
    Decidable (moment.Admits filter event) :=
  inferInstanceAs (Decidable (_ ∧ _))

/-- The changes by which the admitted ones of these events are recorded. -/
def pushes (moment : Moment) (filter : List String) (events : List Event) : List Change :=
  (events.filter (moment.Admits filter ·)).map (.push moment.attempt moment.time)

/-- What a call changes in the window. -/
def changes (moment : Moment) (filter : List String) : Call → List Change
  | .order .clear => [.clear]
  | call => moment.pushes filter call.events

/-- What calls change in the window, one after the other. -/
def changesAll (moment : Moment) (filter : List String) : List Call → List Change
  | [] => []
  | call :: rest => moment.changes filter call ++ (moment.after call).changesAll filter rest

end Moment

theorem Window.changeAll_append (window : Window) (first second : List Change) :
    (window.changeAll (first ++ second)).2 =
      ((window.changeAll first).2.changeAll second).2 := by
  induction first generalizing window with
  | nil => rfl
  | cons change rest ih => exact ih (window.change change).2

namespace Recorder

variable (recorder : Recorder)

def moment : Moment := ⟨recorder.settings.enabled, recorder.attempt, recorder.time⟩

def heed : Call → Recorder
  | .order order => recorder.obey order
  | .nextAttempt => recorder.nextAttempt
  | .clock time => recorder.setTime time
  | .record event => recorder.record event
  | .report event => recorder.report event
  | .judge pattern style cards target => (recorder.judge pattern style cards target).2
  | .hint pattern cards => (recorder.hint pattern cards).2
  | .detect cards => (recorder.detect cards).2

def heedAll (calls : List Call) : Recorder := calls.foldl heed recorder

/-- Looking at the switch beforehand makes no difference to what is recorded. -/
theorem report_eq_record (event : Event) : recorder.report event = recorder.record event := by
  unfold report
  split
  · split
    · rfl
    · next off => simp [record, admits, off]
  · rfl

theorem admits_iff (event : Event) :
    admits recorder.settings event = true ↔
      recorder.moment.Admits recorder.settings.filter event := by
  simp [admits, moment, Moment.Admits]

theorem moment_record (event : Event) : (recorder.record event).moment = recorder.moment := by
  unfold record
  split <;> rfl

theorem window_record (event : Event) :
    (recorder.record event).window =
      if recorder.moment.Admits recorder.settings.filter event then
        recorder.window.push recorder.attempt recorder.time event
      else recorder.window := by
  simp only [record, admits_iff]
  split <;> rfl

theorem moment_recordAll (events : List Event) :
    (recorder.recordAll events).moment = recorder.moment := by
  induction events generalizing recorder with
  | nil => rfl
  | cons event rest ih => exact (ih _).trans (recorder.moment_record event)

theorem settings_recordAll (events : List Event) :
    (recorder.recordAll events).settings = recorder.settings := by
  induction events generalizing recorder with
  | nil => rfl
  | cons event rest ih => exact (ih _).trans (recorder.settings_record event)

theorem window_recordAll (events : List Event) :
    (recorder.recordAll events).window =
      (recorder.window.changeAll (recorder.moment.pushes recorder.settings.filter events)).2 := by
  induction events generalizing recorder with
  | nil => rfl
  | cons event rest ih =>
      have later := ih (recorder.record event)
      rw [moment_record, settings_record, window_record] at later
      rw [show recorder.recordAll (event :: rest) = (recorder.record event).recordAll rest from rfl,
        later, Moment.pushes, Moment.pushes, List.filter_cons]
      split
      · next admitted =>
          rw [if_pos (decide_eq_true admitted)]
          rfl
      · next refused => rw [if_neg (by simpa using refused)]

theorem judge_eq (pattern : Pattern) (style : PluralStyle) (cards : List Card)
    (target : Option Target) :
    recorder.judge pattern style cards target =
      (pattern.judge style cards target,
        recorder.recordAll (judgingTold pattern cards (pattern.judge style cards target))) := by
  rw [← judgingEvents_eq]
  rfl

theorem moment_heed (call : Call) : (recorder.heed call).moment = recorder.moment.after call := by
  cases call with
  | order order => cases order <;> rfl
  | nextAttempt | clock => rfl
  | record event => exact recorder.moment_record event
  | report event =>
      rw [heed, report_eq_record]
      exact recorder.moment_record event
  | judge | hint | detect => exact recorder.moment_recordAll _

theorem filter_heed (call : Call) :
    (recorder.heed call).settings.filter = recorder.settings.filter := by
  cases call with
  | order order => cases order <;> rfl
  | nextAttempt | clock => rfl
  | record event => exact congrArg Settings.filter (recorder.settings_record event)
  | report event =>
      rw [heed, report_eq_record]
      exact congrArg Settings.filter (recorder.settings_record event)
  | judge | hint | detect => exact congrArg Settings.filter (recorder.settings_recordAll _)

theorem window_heed (call : Call) :
    (recorder.heed call).window =
      (recorder.window.changeAll (recorder.moment.changes recorder.settings.filter call)).2 := by
  cases call with
  | order order => cases order <;> rfl
  | nextAttempt | clock => rfl
  | record event => exact recorder.window_recordAll [event]
  | report event =>
      rw [heed, report_eq_record]
      exact recorder.window_recordAll [event]
  | judge pattern style cards target =>
      rw [heed, judge_eq]
      exact recorder.window_recordAll _
  | hint | detect => exact recorder.window_recordAll _

theorem moment_heedAll (calls : List Call) :
    (recorder.heedAll calls).moment = calls.foldl Moment.after recorder.moment := by
  induction calls generalizing recorder with
  | nil => rfl
  | cons call rest ih =>
      rw [List.foldl_cons, ← moment_heed]
      exact ih (recorder.heed call)

theorem filter_heedAll (calls : List Call) :
    (recorder.heedAll calls).settings.filter = recorder.settings.filter := by
  induction calls generalizing recorder with
  | nil => rfl
  | cons call rest ih => exact (ih (recorder.heed call)).trans (recorder.filter_heed call)

theorem window_heedAll (calls : List Call) :
    (recorder.heedAll calls).window =
      (recorder.window.changeAll
        (recorder.moment.changesAll recorder.settings.filter calls)).2 := by
  induction calls generalizing recorder with
  | nil => rfl
  | cons call rest ih =>
      have later := ih (recorder.heed call)
      rw [window_heed, moment_heed, filter_heed, ← Window.changeAll_append] at later
      exact later

end Recorder

section Order

/-- The attempt of the record that a change adds. -/
def Change.attempt? (change : Change) : Option Nat := change.push?.map Prod.fst

theorem attempts_pushed (changes : List Change) :
    (pushed changes).map Record.attempt = changes.filterMap Change.attempt? := by
  induction changes using List.reverseRecOn with
  | nil => rfl
  | append_singleton earlier change ih =>
      cases change with
      | push attempt time event =>
          rw [pushed_concat_push, List.map_append, ih, List.filterMap_append]
          rfl
      | clear =>
          rw [pushed_concat_clear, ih, List.filterMap_append]
          exact (List.append_nil _).symm

variable {moment : Moment} {filter : List String}

theorem Moment.attempt_le_after (call : Call) : moment.attempt ≤ (moment.after call).attempt := by
  cases call with
  | order order => cases order <;> exact Nat.le_refl _
  | nextAttempt => exact Nat.le_succ _
  | clock | record | report | judge | hint | detect => exact Nat.le_refl _

theorem Moment.eq_of_mem_pushes {events : List Event} {attempt : Nat}
    (told : attempt ∈ (moment.pushes filter events).filterMap Change.attempt?) :
    attempt = moment.attempt := by
  simp only [Moment.pushes, List.filterMap_map, List.mem_filterMap] at told
  obtain ⟨event, _, here⟩ := told
  exact (Option.some.inj here).symm

theorem Moment.eq_of_mem_changes {call : Call} {attempt : Nat}
    (told : attempt ∈ (moment.changes filter call).filterMap Change.attempt?) :
    attempt = moment.attempt := by
  cases call with
  | order order =>
      cases order with
      | clear => cases told
      | switch | format => exact Moment.eq_of_mem_pushes told
  | nextAttempt | clock | record | report | judge | hint | detect =>
      exact Moment.eq_of_mem_pushes told

theorem Moment.le_of_mem_changesAll {calls : List Call} {attempt : Nat}
    (told : attempt ∈ (moment.changesAll filter calls).filterMap Change.attempt?) :
    moment.attempt ≤ attempt := by
  induction calls generalizing moment with
  | nil => cases told
  | cons call rest ih =>
      rw [Moment.changesAll, List.filterMap_append, List.mem_append] at told
      rcases told with now | later
      · exact (Moment.eq_of_mem_changes now).ge
      · exact (Moment.attempt_le_after call).trans (ih later)

/-- The numbers of the attempts never decrease from one record to the next. -/
theorem Moment.sorted_changesAll (moment : Moment) (filter : List String) (calls : List Call) :
    ((moment.changesAll filter calls).filterMap Change.attempt?).Pairwise (· ≤ ·) := by
  induction calls generalizing moment with
  | nil => exact .nil
  | cons call rest ih =>
      rw [Moment.changesAll, List.filterMap_append, List.pairwise_append]
      refine ⟨?_, ih (moment.after call), ?_⟩
      · refine List.pairwise_of_forall_mem_list fun first here second there => ?_
        rw [Moment.eq_of_mem_changes here, Moment.eq_of_mem_changes there]
      · intro first here second later
        rw [Moment.eq_of_mem_changes here]
        exact (Moment.attempt_le_after call).trans (Moment.le_of_mem_changesAll later)

theorem Window.Holds.sorted {capacity : Nat} {changes : List Change} {numbers : List Nat}
    {window : Window} (holds : Holds capacity changes numbers window)
    (sorted : (changes.filterMap Change.attempt?).Pairwise (· ≤ ·)) :
    (window.records.map Record.attempt).Pairwise (· ≤ ·) := by
  rw [← attempts_pushed] at sorted
  refine sorted.sublist (List.Sublist.map _ ?_)
  rw [holds.records]
  exact (List.drop_suffix _ _).sublist

end Order

section Ends

variable {numbers : List Nat}

theorem head?_eq_min?_of_sorted (sorted : numbers.Pairwise (· ≤ ·)) :
    numbers.head? = numbers.min? := by
  cases numbers with
  | nil => rfl
  | cons first rest =>
      symm
      rw [List.head?_cons, List.min?_eq_some_iff]
      refine ⟨List.mem_cons_self, ?_⟩
      intro number member
      rcases List.mem_cons.mp member with rfl | later
      · exact Nat.le_refl _
      · exact List.rel_of_pairwise_cons sorted later

theorem getLast?_eq_max?_of_sorted (sorted : numbers.Pairwise (· ≤ ·)) :
    numbers.getLast? = numbers.max? := by
  cases numbers using List.reverseRecOn with
  | nil => rfl
  | append_singleton earlier last =>
      symm
      rw [List.getLast?_concat, List.max?_eq_some_iff]
      refine ⟨List.mem_append_right _ List.mem_cons_self, ?_⟩
      intro number member
      rcases List.mem_append.mp member with before | here
      · exact (List.pairwise_append.mp sorted).2.2 number before last List.mem_cons_self
      · exact (List.mem_singleton.mp here).le

end Ends

theorem Window.Holds.bounded {capacity : Nat} {changes : List Change} {numbers : List Nat}
    {window : Window} (holds : Holds capacity changes numbers window) :
    window.records.length ≤ window.capacity := by
  rw [holds.records, length_rtake, holds.room]
  exact (Nat.min_le_left _ _).trans (Nat.min_le_left _ _)

/-- Events as records, numbered from a number on. -/
def Moment.recorded (moment : Moment) (nextId : Nat) (events : List Event) : List Record :=
  events.mapIdx fun number event => ⟨nextId + number, moment.attempt, moment.time, event⟩

theorem Moment.recorded_cons (moment : Moment) (nextId : Nat) (event : Event)
    (rest : List Event) :
    moment.recorded nextId (event :: rest) =
      ⟨nextId, moment.attempt, moment.time, event⟩ :: moment.recorded (nextId + 1) rest := by
  simp [Moment.recorded, List.mapIdx_cons, Nat.add_assoc, Nat.add_comm 1]

/-- The admitted events come behind the records held before, as far as there is room. -/
theorem records_changeAll_pushes {window : Window} {moment : Moment} {filter : List String}
    (bounded : window.records.length ≤ window.capacity) (events : List Event) :
    (window.changeAll (moment.pushes filter events)).2.records =
      (window.records ++
        moment.recorded window.nextId (events.filter (moment.Admits filter ·))).rtake
          window.capacity := by
  rw [Moment.pushes]
  generalize events.filter (moment.Admits filter ·) = admitted
  induction admitted generalizing window with
  | nil =>
      rw [Moment.recorded, List.mapIdx_nil, List.append_nil, rtake_eq_self bounded]
      rfl
  | cons event rest ih =>
      let record : Record := ⟨window.nextId, moment.attempt, moment.time, event⟩
      let pushed := window.push moment.attempt moment.time event
      have room : pushed.records.length ≤ pushed.capacity := by
        show ((window.records ++ [record]).rtake window.capacity).length ≤ _
        rw [length_rtake]
        exact Nat.min_le_left _ _
      calc
        _ = (pushed.records ++ moment.recorded (window.nextId + 1) rest).rtake window.capacity :=
          ih room
        _ = (window.records ++ [record] ++ moment.recorded (window.nextId + 1) rest).rtake
              window.capacity := rtake_rtake_append _ _ _
        _ = _ := by rw [Moment.recorded_cons, List.append_assoc, List.singleton_append]

namespace Recorder

/-- Whatever a recorder has been called for, an event is recorded just when the recorder is on and
the filter lets it through, under the attempt that is under way.  The trace holds the last of the
events so admitted since it was emptied, and all of them have been numbered in a row.  The attempts
of its records never decrease: each attempt is a block of the trace, the oldest and the newest
record tell the first and the last attempt, and the summary counts them.  Judging a sentence adds
what is admitted of its beginning, of the rejection if there is one, and of its end. -/
theorem recorded_when_admitted (settings : Settings) (calls : List Call) :
    let recorder := (start settings).heedAll calls
    let origin : Moment := ⟨settings.enabled, 0, 0⟩
    let moment := calls.foldl Moment.after origin
    let changes := origin.changesAll settings.filter calls
    let window := recorder.window
    let attempts := window.records.map Record.attempt
    (∀ event, (recorder.record event).window =
        if moment.Admits settings.filter event then
          window.push moment.attempt moment.time event
        else window) ∧
      (∀ event, recorder.report event = recorder.record event) ∧
      window.records = (pushed changes).rtake (min settings.capacity (sinceClear changes).length) ∧
      window.nextId = (pushed changes).length ∧
      attempts.Pairwise (· ≤ ·) ∧
      (∀ attempt, window.ofAttempt attempt = window.records.filter (·.attempt == attempt) ∧
        window.ofAttempt attempt <:+: window.records) ∧
      window.oldestAttempt? = attempts.min? ∧ window.newestAttempt? = attempts.max? ∧
      window.summary.attemptCount = attempts.dedup.length ∧
      ∀ pattern style cards target,
        let verdict := pattern.judge style cards target
        let admitted :=
          (judgingTold pattern cards verdict).filter (moment.Admits settings.filter ·)
        let judged := recorder.judge pattern style cards target
        judged.1 = verdict ∧
          judged.2.window.records =
            (window.records ++ moment.recorded window.nextId admitted).rtake settings.capacity := by
  intro recorder origin moment changes window attempts
  have now : recorder.moment = moment := moment_heedAll (start settings) calls
  have filter : recorder.settings.filter = settings.filter := filter_heedAll (start settings) calls
  have changed : window = ((Window.empty settings.capacity).changeAll changes).2 :=
    window_heedAll (start settings) calls
  have holds := Window.Holds.changeAll settings.capacity changes
  rw [← changed] at holds
  have sorted : attempts.Pairwise (· ≤ ·) :=
    holds.sorted (origin.sorted_changesAll settings.filter calls)
  have together (attempt : Nat) : Together (Record.isOf attempt) window.records :=
    together_of_sorted sorted
  refine ⟨?_, recorder.report_eq_record, holds.records, holds.nextId, sorted, ?_, ?_, ?_, ?_, ?_⟩
  · intro event
    rw [window_record, now, filter, ← now]
    rfl
  · intro attempt
    exact ⟨rfl, together_iff_filter_isInfix.mp (together attempt)⟩
  · rw [← head?_eq_min?_of_sorted sorted, List.head?_map]
    rfl
  · rw [← getLast?_eq_max?_of_sorted sorted, List.getLast?_map]
    rfl
  · exact (Window.attemptRuns_eq_distinct_iff window.records).mpr together
  · intro pattern style cards target verdict admitted judged
    have whole := recorder.judge_eq pattern style cards target
    refine ⟨congrArg Prod.fst whole, ?_⟩
    rw [show judged = _ from whole, window_recordAll, now, filter, ← holds.room]
    exact records_changeAll_pushes holds.bounded _

end Recorder

end SentenceCards.Trace
