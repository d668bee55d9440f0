import SentenceCards.Json.Writer
import SentenceCards.Text.Layout
import SentenceCards.Text.Thousandths
import SentenceCards.Trace.Event

/-!
# Records as text

A record is shown as a line for people, or as a JSON object.
-/

namespace SentenceCards.Trace

/-- A time in nanoseconds, shown in whole microseconds, or in milliseconds or seconds
with three decimal places. -/
def shownTime (time : Nat) : String :=
  let micros := time / 1000
  if 1000000 ≤ micros then Text.threePlaces (micros.toUInt64.toFloat / 1000000.0) ++ "s"
  else if 1000 ≤ micros then Text.threePlaces (micros.toUInt64.toFloat / 1000.0) ++ "ms"
  else toString micros ++ "us"

/-- How an event reads. -/
def Event.text : Event → String
  | .validationStart pattern sentence => s!"  VALIDATE {pattern.name}: {sentence}"
  | .gateRejected pattern gate message =>
      s!"    REJECT {pattern.name} @{gate.name}: {message}"
  | .validationComplete pattern valid correct tone =>
      let status := if valid then if correct then "CORRECT" else "VALID" else "INVALID"
      s!"  RESULT {pattern.name} {status} ({tone.name})"
  | .patternDetected pattern => s!"  DETECT {pattern.name}"
  | .hintIssued pattern hint => s!"  HINT {pattern.name}: {hint}"
  | .attemptRecorded challenge correct =>
      let status := if correct then "CORRECT" else "INCORRECT"
      s!"=== ATTEMPT {challenge} {status} ==="
  | .custom name data => s!"  CUSTOM {name}: {data}"

/-- What a line shows beside the attempt and the event. -/
structure LineStyle where
  ids : Bool
  times : Bool

/-- The line of a record. -/
def Record.line (style : LineStyle) (record : Record) : String :=
  (if style.ids then s!"[{Text.zeroPadded 6 record.id}] " else "") ++
  s!"A{Text.zeroPadded 4 record.attempt} " ++
  (if style.times then Text.padStart 10 (shownTime record.time) ++ " " else "") ++
  record.event.text

/-- The lines of records. -/
def lines (style : LineStyle) (records : List Record) : String :=
  "\n".intercalate (records.map (Record.line style))

/-- The members of an event's own. -/
def Event.members : Event → List (String × Json)
  | .validationStart pattern sentence =>
      [("pattern", .string pattern.name), ("sentence", .string sentence)]
  | .gateRejected pattern gate message =>
      [("pattern", .string pattern.name), ("gate", .string gate.name),
        ("message", .string message)]
  | .validationComplete pattern valid correct tone =>
      [("pattern", .string pattern.name), ("valid", .bool valid), ("correct", .bool correct),
        ("kind", .string tone.name)]
  | .patternDetected pattern => [("pattern", .string pattern.name)]
  | .hintIssued pattern hint => [("pattern", .string pattern.name), ("hint", .string hint)]
  | .attemptRecorded challenge correct =>
      [("challenge", .string challenge), ("correct", .bool correct)]
  | .custom name data => [("name", .string name), ("data", .string data)]

/-- The object of a record. -/
def Record.toJson (record : Record) : Json :=
  .object ([("id", .nat record.id), ("attempt", .nat record.attempt),
    ("timestamp_ns", .nat record.time), ("type", .string record.event.kind.name)] ++
    record.event.members)

/-- The array of records as JSON, on one line or, if `spread`, with a line for each record. -/
def jsonText (spread : Bool) (records : List Record) : String :=
  let items := records.map (·.toJson.render)
  if spread then "[\n  " ++ ",\n  ".intercalate items ++ "\n]"
  else "[" ++ ",".intercalate items ++ "]"

end SentenceCards.Trace
