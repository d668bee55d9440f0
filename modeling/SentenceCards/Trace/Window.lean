import SentenceCards.Trace.Event

/-!
# The window of recent records

Records are numbered from zero on, and only the last ones are kept.
-/

namespace SentenceCards.Trace

/-- The last records, oldest first, at most `capacity` of them. -/
structure Window where
  records : List Record
  capacity : Nat
  /-- The number of the next record. -/
  nextId : Nat
  deriving DecidableEq, Inhabited

namespace Window

def empty (capacity : Nat) : Window := ⟨[], capacity, 0⟩

/-- How many records are kept if nothing else is asked for. -/
def usualCapacity : Nat := 10000

/-- Adds a record, and drops the oldest ones that there is no room for. -/
def push (window : Window) (attempt time : Nat) (event : Event) : Window :=
  let records := window.records ++ [⟨window.nextId, attempt, time, event⟩]
  { window with
    records := records.drop (records.length - window.capacity)
    nextId := window.nextId + 1 }

/-- Adds a record, and tells the number that it is given. -/
def register (window : Window) (attempt time : Nat) (event : Event) : Nat × Window :=
  (window.nextId, window.push attempt time event)

/-- Drops all records.  The numbers go on. -/
def clear (window : Window) : Window := { window with records := [] }

/-- The last `count` records. -/
def recent (window : Window) (count : Nat) : List Record :=
  window.records.drop (window.records.length - count)

/-- The newest record. -/
def last? (window : Window) : Option Record := window.records.getLast?

/-- The records of one attempt. -/
def ofAttempt (window : Window) (attempt : Nat) : List Record :=
  window.records.filter (·.attempt == attempt)

/-- The records of the kind with the given name. -/
def ofKindNamed (window : Window) (name : String) : List Record :=
  window.records.filter (·.event.kind.name == name)

/-- The attempt of the oldest record. -/
def oldestAttempt? (window : Window) : Option Nat := window.records.head?.map Record.attempt

/-- The attempt of the newest record. -/
def newestAttempt? (window : Window) : Option Nat := window.last?.map Record.attempt

/-- The number of runs of neighbouring records that belong to the same attempt. -/
def attemptRuns : List Record → Nat
  | [] => 0
  | [_] => 1
  | first :: second :: rest =>
      (if first.attempt = second.attempt then 0 else 1) + attemptRuns (second :: rest)

/-- How many records of a kind are held. -/
def kindCount (window : Window) (kind : Kind) : Nat :=
  window.records.countP (·.event.kind == kind)

/-- How many held records say that the gate rejected a sentence. -/
def gateCount (window : Window) (gate : Gate) : Nat :=
  window.records.countP (·.event.gate? == some gate)

end Window

/-- The numbers that describe a window. -/
structure Summary where
  recordCount : Nat
  capacity : Nat
  oldestAttempt : Option Nat
  newestAttempt : Option Nat
  attemptCount : Nat
  /-- The kinds that occur, with the number of their records. -/
  kindCounts : List (Kind × Nat)
  /-- The gates that rejected a sentence, with the number of rejections. -/
  gateCounts : List (Gate × Nat)
  deriving DecidableEq, Inhabited

/-- The items with their counts, without those that do not occur. -/
def occurring {α : Type} (items : List α) (count : α → Nat) : List (α × Nat) :=
  (items.map fun item => (item, count item)).filter (·.2 != 0)

def Window.summary (window : Window) : Summary where
  recordCount := window.records.length
  capacity := window.capacity
  oldestAttempt := window.oldestAttempt?
  newestAttempt := window.newestAttempt?
  attemptCount := attemptRuns window.records
  kindCounts := occurring Kind.all window.kindCount
  gateCounts := occurring Gate.all window.gateCount

end SentenceCards.Trace
