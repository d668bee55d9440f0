import SentenceCards.Grammar.Judgement
import SentenceCards.Trace.Line
import SentenceCards.Trace.Window

/-!
# Recording a trace

A recorder keeps the events that its settings admit, each with the number of the current
attempt.  It can also write every record to a log as it is made.
-/

namespace SentenceCards.Trace

structure Settings where
  enabled : Bool
  capacity : Nat
  /-- Whether records are also written as they are made. -/
  echoes : Bool
  /-- Whether records are shown as JSON. -/
  json : Bool
  /-- The names of the kinds that are recorded; if empty, all are. -/
  filter : List String
  deriving DecidableEq, Inhabited

/-- Nothing is recorded. -/
def Settings.usual : Settings := ⟨false, Window.usualCapacity, false, false, []⟩

/-- What a recorder can be told to do. -/
inductive Order where
  | switch (on : Bool)
  /-- Drops all records. -/
  | clear
  /-- Shows records as JSON, or as lines. -/
  | format (json : Bool)
  deriving DecidableEq, Inhabited

/-- A record that is written as it is made. -/
structure Echo where
  /-- Whether it is shown as JSON. -/
  json : Bool
  record : Record
  deriving DecidableEq, Inhabited

/-- A record as JSON, or as a line with its time. -/
def Record.shown (record : Record) (json : Bool) : String :=
  if json then record.toJson.render else record.line ⟨false, true⟩

/-- Records as JSON, or as lines with their times. -/
def shownRecords (json : Bool) (records : List Record) : String :=
  if json then jsonText false records else lines ⟨false, true⟩ records

/-- The line that is written. -/
def Echo.line (echo : Echo) : String := echo.record.shown echo.json

structure Recorder where
  settings : Settings
  window : Window
  /-- The number of the current attempt. -/
  attempt : Nat
  /-- The time that the next records are given, in nanoseconds since the recorder was made. -/
  time : Nat
  /-- The records written and not collected yet, oldest first. -/
  echoes : List Echo
  deriving DecidableEq, Inhabited

namespace Recorder

def start (settings : Settings) : Recorder :=
  ⟨settings, .empty settings.capacity, 0, 0, []⟩

def setEnabled (recorder : Recorder) (enabled : Bool) : Recorder :=
  { recorder with settings := { recorder.settings with enabled := enabled } }

def setJson (recorder : Recorder) (json : Bool) : Recorder :=
  { recorder with settings := { recorder.settings with json := json } }

/-- Begins a new attempt. -/
def nextAttempt (recorder : Recorder) : Recorder :=
  { recorder with attempt := recorder.attempt + 1 }

/-- Drops all records. -/
def clear (recorder : Recorder) : Recorder :=
  { recorder with window := recorder.window.clear }

/-- Carries out an order.  The number of the attempt stays as it is. -/
def obey (recorder : Recorder) : Order → Recorder
  | .switch on => recorder.setEnabled on
  | .clear => recorder.clear
  | .format json => recorder.setJson json

/-- Sets the time that the next records are given. -/
def setTime (recorder : Recorder) (time : Nat) : Recorder := { recorder with time := time }

/-- A record as the settings ask for it. -/
def shown (recorder : Recorder) (record : Record) : String := record.shown recorder.settings.json

/-- The last records as the settings ask for them. -/
def shownRecent (recorder : Recorder) (count : Nat) : String :=
  shownRecords recorder.settings.json (recorder.window.recent count)

/-- Whether the settings let the event be recorded. -/
def admits (settings : Settings) (event : Event) : Bool :=
  settings.enabled && (settings.filter.isEmpty || settings.filter.contains event.kind.name)

/-- What is written for a new record: the newest record, if any is held. -/
def echoOf (recorder : Recorder) : List Echo :=
  if recorder.settings.echoes then
    (recorder.window.last?.map (Echo.mk recorder.settings.json)).toList
  else []

/-- Records an event if the settings admit it. -/
def record (recorder : Recorder) (event : Event) : Recorder :=
  if admits recorder.settings event then
    let recorder :=
      { recorder with window := recorder.window.push recorder.attempt recorder.time event }
    { recorder with echoes := recorder.echoes ++ recorder.echoOf }
  else recorder

/-- Reports an event.  One for which texts are copied is not even made while the recorder is
switched off. -/
def report (recorder : Recorder) (event : Event) : Recorder :=
  if event.kind.copiesTexts then
    if recorder.settings.enabled then recorder.record event else recorder
  else recorder.record event

/-- Records events in order. -/
def recordAll (recorder : Recorder) (events : List Event) : Recorder :=
  events.foldl record recorder

/-- The lines written and not collected yet. -/
def echoed (recorder : Recorder) : List String := recorder.echoes.map Echo.line

/-- The lines written so far, and the recorder without them. -/
def collect (recorder : Recorder) : List String × Recorder :=
  (recorder.echoed, { recorder with echoes := [] })

end Recorder

/-- The events of judging a sentence. -/
def judgingEvents (pattern : Pattern) (cards : List Card) (verdict : Verdict) : List Event :=
  [.validationStart pattern (sentence cards)] ++
  (verdict.gate?.map fun gate => Event.gateRejected pattern gate verdict.feedback.message).toList ++
  [.validationComplete pattern verdict.valid verdict.correct verdict.feedback.tone]

namespace Recorder

/-- Judges a sentence and records how. -/
def judge (recorder : Recorder) (pattern : Pattern) (style : PluralStyle) (cards : List Card)
    (target : Option Target) : Verdict × Recorder :=
  let verdict := pattern.judge style cards target
  (verdict, recorder.recordAll (judgingEvents pattern cards verdict))

/-- Looks for a hint and records the one found. -/
def hint (recorder : Recorder) (pattern : Pattern) (cards : List Card) :
    Option String × Recorder :=
  let hint := pattern.hint cards
  (hint, recorder.recordAll (hint.map (Event.hintIssued pattern)).toList)

/-- Looks for the pattern of a sentence and records the one found. -/
def detect (recorder : Recorder) (cards : List Card) : Option Pattern × Recorder :=
  let pattern := SentenceCards.detect cards
  (pattern, recorder.recordAll (pattern.map Event.patternDetected).toList)

end Recorder

end SentenceCards.Trace
