import Mathlib.Data.List.DropRight
import Mathlib.Data.List.Nodup
import SentenceCards.Trace.Window

/-!
# What a window holds

A window is changed by pushing records and by dropping all that it holds.  Whatever the changes
have been, it holds the last records that were pushed since it was last emptied, as many as there
is room for, and every record has the number of records that were pushed before it
(`Window.held_of_changes`).
-/

namespace SentenceCards.Trace

section Last

variable {α : Type}

theorem length_rtake (items : List α) (count : Nat) :
    (items.rtake count).length = min count items.length := by
  rw [List.rtake, List.length_drop]
  omega

theorem rtake_eq_self {items : List α} {count : Nat} (few : items.length ≤ count) :
    items.rtake count = items := by
  rw [List.rtake, Nat.sub_eq_zero_of_le few, List.drop_zero]

theorem rtake_rtake (items : List α) (first second : Nat) :
    (items.rtake first).rtake second = items.rtake (min second first) := by
  simp only [List.rtake, List.drop_drop, List.length_drop]
  congr 1
  omega

theorem rtake_append (items more : List α) (count : Nat) :
    (items ++ more).rtake (count + more.length) = items.rtake count ++ more := by
  have cut : (items ++ more).length - (count + more.length) = items.length - count := by
    rw [List.length_append]
    omega
  rw [List.rtake, cut, List.drop_append_of_le_length (Nat.sub_le _ _), List.rtake]

theorem map_rtake {β : Type} (change : α → β) (items : List α) (count : Nat) :
    (items.rtake count).map change = (items.map change).rtake count := by
  rw [List.rtake, List.map_drop, List.rtake, List.length_map]

/-- Nothing is lost when what cannot be among the last items is dropped before more are added. -/
theorem rtake_rtake_append (items more : List α) (count : Nat) :
    (items.rtake count ++ more).rtake count = (items ++ more).rtake count := by
  rw [← rtake_append, rtake_rtake, Nat.min_eq_left (Nat.le_add_right _ _)]

end Last

/-- How often something occurs, if it does. -/
def occurrences (count : Nat) : Option Nat := if count = 0 then none else some count

section Occurring

variable {α : Type} {name : α → String} {items : List α}

theorem lookup_occurring_of_absent {count : α → Nat} {wanted : String}
    (absent : wanted ∉ items.map name) :
    ((occurring items count).map fun (item, n) => (name item, n)).lookup wanted = none := by
  rw [List.lookup_eq_none_iff]
  intro entry member
  simp only [occurring, List.mem_map, List.mem_filter] at member
  obtain ⟨_, ⟨⟨item, listed, rfl⟩, _⟩, rfl⟩ := member
  rw [bne_iff_ne]
  rintro rfl
  exact absent (List.mem_map_of_mem listed)

theorem lookup_occurring {count : α → Nat} (different : (items.map name).Nodup) {item : α}
    (listed : item ∈ items) :
    ((occurring items count).map fun (item, n) => (name item, n)).lookup (name item) =
      occurrences (count item) := by
  induction items with
  | nil => cases listed
  | cons first rest ih =>
      rw [List.map_cons, List.nodup_cons] at different
      obtain ⟨absent, different⟩ := different
      by_cases zero : count first = 0
      · have skipped : occurring (first :: rest) count = occurring rest count := by
          simp [occurring, zero]
        rw [skipped]
        rcases List.mem_cons.mp listed with rfl | later
        · rw [lookup_occurring_of_absent absent, zero]
          rfl
        · exact ih different later
      · have kept : occurring (first :: rest) count =
            (first, count first) :: occurring rest count := by
          simp [occurring, zero]
        rw [kept, List.map_cons, List.lookup_cons]
        rcases List.mem_cons.mp listed with rfl | later
        · simp [occurrences, zero]
        · have other : (name item == name first) = false := by
            rw [beq_eq_false_iff_ne]
            intro same
            exact absent (same ▸ List.mem_map_of_mem later)
          rw [other]
          exact ih different later

/-- Records are counted by an item that they may have, and the count is listed under its name. -/
theorem lookup_occurring_countP [DecidableEq α] (different : (items.map name).Nodup)
    (complete : ∀ item, item ∈ items) (item? : Record → Option α) (records : List Record)
    (wanted : String) :
    ((occurring items fun item => records.countP (item? · == some item)).map
        fun (item, n) => (name item, n)).lookup wanted =
      occurrences (records.filter fun record => (item? record).any (name · == wanted)).length := by
  by_cases listed : wanted ∈ items.map name
  · obtain ⟨item, member, rfl⟩ := List.mem_map.mp listed
    have same (record : Record) :
        (item? record == some item) = (item? record).any (name · == name item) := by
      cases item? record with
      | none => rfl
      | some other =>
          rw [Bool.eq_iff_iff, beq_iff_eq, Option.some_inj, Option.any_some, beq_iff_eq]
          constructor
          · exact congrArg name
          · exact List.inj_on_of_nodup_map different (complete other) member
    rw [lookup_occurring different member, List.countP_eq_length_filter, funext same]
  · have none : records.filter (fun record => (item? record).any (name · == wanted)) = [] := by
      rw [List.filter_eq_nil_iff]
      intro record _ named
      cases kept : item? record with
      | none => simp [kept] at named
      | some item =>
          rw [kept, Option.any_some, beq_iff_eq] at named
          exact listed (named ▸ List.mem_map_of_mem (complete item))
    rw [lookup_occurring_of_absent listed, none]
    rfl

end Occurring

theorem Kind.mem_all (kind : Kind) : kind ∈ Kind.all := by cases kind <;> decide

theorem Kind.names_nodup : (Kind.all.map Kind.name).Nodup := by decide

theorem mem_gates (gate : Gate) : gate ∈ Gate.all := by cases gate <;> decide

theorem gate_names_nodup : (Gate.all.map Gate.name).Nodup := by decide

/-- The event says that the gate with this name rejected a sentence. -/
def Event.rejectsAt (name : String) : Event → Bool
  | .gateRejected _ gate _ => gate.name == name
  | _ => false

theorem Event.rejectsAt_eq (name : String) (event : Event) :
    event.rejectsAt name = event.gate?.any (·.name == name) := by
  cases event <;> rfl

/-- What can be done to a window. -/
inductive Change where
  | push (attempt time : Nat) (event : Event)
  | clear
  deriving DecidableEq, Inhabited

/-- What a push adds: the attempt, the time and the event. -/
def Change.push? : Change → Option (Nat × Nat × Event)
  | push attempt time event => some (attempt, time, event)
  | clear => none

/-- The records that the changes add.  Each has the number of those before it. -/
def pushed (changes : List Change) : List Record :=
  (changes.filterMap Change.push?).mapIdx fun number (attempt, time, event) =>
    ⟨number, attempt, time, event⟩

/-- The changes since the window was last emptied. -/
def sinceClear (changes : List Change) : List Change := changes.rtakeWhile (·.push?.isSome)

section Further

variable (changes : List Change) (attempt time : Nat) (event : Event)

theorem pushed_concat_push :
    pushed (changes ++ [.push attempt time event]) =
      pushed changes ++ [⟨(pushed changes).length, attempt, time, event⟩] := by
  simp [pushed, Change.push?, List.mapIdx_concat]

theorem pushed_concat_clear : pushed (changes ++ [.clear]) = pushed changes := by
  rw [pushed, List.filterMap_append, show [Change.clear].filterMap Change.push? = [] from rfl,
    List.append_nil, pushed]

theorem sinceClear_concat_push :
    sinceClear (changes ++ [.push attempt time event]) =
      sinceClear changes ++ [.push attempt time event] :=
  List.rtakeWhile_concat_pos _ _ _ rfl

theorem sinceClear_concat_clear : sinceClear (changes ++ [.clear]) = [] :=
  List.rtakeWhile_concat_neg _ _ _ (by simp [Change.push?])

end Further

namespace Window

/-- Carries out a change, and tells the number of the record that it adds. -/
def change (window : Window) : Change → Option Nat × Window
  | .push attempt time event =>
      let (number, window) := window.register attempt time event
      (some number, window)
  | .clear => (none, window.clear)

/-- Carries out changes in order, and tells the numbers of the records that they add. -/
def changeAll (window : Window) : List Change → List Nat × Window
  | [] => ([], window)
  | change :: rest =>
      let (number, window) := window.change change
      let (numbers, window) := window.changeAll rest
      (number.toList ++ numbers, window)

theorem changeAll_concat (window : Window) (changes : List Change) (change : Change) :
    window.changeAll (changes ++ [change]) =
      ((window.changeAll changes).1 ++ ((window.changeAll changes).2.change change).1.toList,
        ((window.changeAll changes).2.change change).2) := by
  induction changes generalizing window with
  | nil => simp [changeAll]
  | cons first rest ih =>
      simp only [List.cons_append, changeAll]
      rw [ih]
      simp only [List.append_assoc]

/-- What the changes of a window of this capacity have told, and what it holds now. -/
structure Holds (capacity : Nat) (changes : List Change) (numbers : List Nat) (window : Window) :
    Prop where
  room : window.capacity = capacity
  numbers : numbers = List.range (pushed changes).length
  nextId : window.nextId = (pushed changes).length
  records : window.records = (pushed changes).rtake (min capacity (sinceClear changes).length)

namespace Holds

variable {capacity : Nat} {changes : List Change} {numbers : List Nat} {window : Window}

theorem empty (capacity : Nat) : Holds capacity [] [] (empty capacity) := by
  refine ⟨rfl, rfl, rfl, ?_⟩
  rw [show pushed [] = [] from rfl, List.rtake_nil]
  rfl

theorem push (holds : Holds capacity changes numbers window) (attempt time : Nat)
    (event : Event) :
    Holds capacity (changes ++ [.push attempt time event]) (numbers ++ [window.nextId])
      (window.push attempt time event) := by
  have more := pushed_concat_push changes attempt time event
  constructor
  · exact holds.room
  · rw [more, List.length_append, List.length_singleton, List.range_succ, holds.numbers,
      holds.nextId]
  · rw [more, List.length_append, List.length_singleton, ← holds.nextId]
    rfl
  · have room : min capacity (min capacity (sinceClear changes).length + 1) =
        min capacity (sinceClear (changes ++ [.push attempt time event])).length := by
      rw [sinceClear_concat_push, List.length_append, List.length_singleton]
      omega
    calc
      (window.push attempt time event).records =
          (window.records ++ [Record.mk window.nextId attempt time event]).rtake
            window.capacity := rfl
      _ = ((pushed (changes ++ [.push attempt time event])).rtake
            (min capacity (sinceClear changes).length + 1)).rtake capacity := by
          rw [more, List.rtake_concat_succ, holds.records, holds.nextId, holds.room]
      _ = _ := by rw [rtake_rtake, room]

theorem clear (holds : Holds capacity changes numbers window) :
    Holds capacity (changes ++ [.clear]) numbers window.clear := by
  constructor
  · exact holds.room
  · rw [pushed_concat_clear, holds.numbers]
  · rw [pushed_concat_clear, ← holds.nextId]
    rfl
  · rw [sinceClear_concat_clear, List.length_nil, Nat.min_zero, List.rtake_zero]
    rfl

theorem changeAll (capacity : Nat) (changes : List Change) :
    Holds capacity changes ((Window.empty capacity).changeAll changes).1
      ((Window.empty capacity).changeAll changes).2 := by
  induction changes using List.reverseRecOn with
  | nil => exact empty capacity
  | append_singleton earlier change ih =>
      rw [changeAll_concat]
      cases change with
      | push attempt time event => exact ih.push attempt time event
      | clear => simpa [change] using ih.clear

end Holds

section Summary

variable (window : Window) (name : String)

theorem lookup_kindCounts :
    (window.summary.kindCounts.map fun (kind, count) => (kind.name, count)).lookup name =
      occurrences (window.ofKindNamed name).length :=
  lookup_occurring_countP Kind.names_nodup Kind.mem_all (fun record => some record.event.kind)
    window.records name

theorem lookup_gateCounts :
    (window.summary.gateCounts.map fun (gate, count) => (gate.name, count)).lookup name =
      occurrences (window.records.filter (·.event.rejectsAt name)).length := by
  simp only [Event.rejectsAt_eq]
  exact lookup_occurring_countP gate_names_nodup mem_gates (·.event.gate?) window.records name

end Summary

/-- A window holds the last records that were pushed since it was last emptied, as many as there
is room for.  A push is told, and its record keeps, the number of pushes before it.  The summary
counts the held records, and lists the numbers of those of each kind and of the rejections at each
gate under their names. -/
theorem held_of_changes (capacity : Nat) (changes : List Change) :
    let numbers := ((empty capacity).changeAll changes).1
    let window := ((empty capacity).changeAll changes).2
    window.records = (pushed changes).rtake (min capacity (sinceClear changes).length) ∧
      numbers = List.range (pushed changes).length ∧
      (∀ count, window.recent count = window.records.rtake (min count window.records.length)) ∧
      window.summary.recordCount = window.records.length ∧
      (∀ name,
        (window.summary.kindCounts.map fun (kind, count) => (kind.name, count)).lookup name =
          occurrences (window.ofKindNamed name).length) ∧
      ∀ name,
        (window.summary.gateCounts.map fun (gate, count) => (gate.name, count)).lookup name =
          occurrences (window.records.filter (·.event.rejectsAt name)).length := by
  intro numbers window
  have holds : Holds capacity changes numbers window := .changeAll capacity changes
  refine ⟨holds.records, holds.numbers, ?_, rfl, lookup_kindCounts window,
    lookup_gateCounts window⟩
  intro count
  rw [← rtake_rtake, rtake_eq_self (Nat.le_refl _)]
  rfl

end Window

end SentenceCards.Trace
