import SentenceCards.Json.Stored
import SentenceCards.Trace.Recorder

/-!
# Events, settings and summaries in JSON

An event is read from an object with its kind and the members that it is written with.
-/

namespace SentenceCards.Trace

/-- The value of a member, read by `read?`. -/
def memberOf? {α : Type} (json : Json) (read? : Json → Option α) (key : String) : Option α :=
  (json.member? key).bind read?

/-- The event that an object describes. -/
def Event.ofJson? (json : Json) : Option Event := do
  let text := memberOf? json Json.text?
  let bool := memberOf? json Json.bool?
  let pattern := memberOf? json Pattern.ofJson? "pattern"
  match ← text "type" with
  | "validation-start" => return .validationStart (← pattern) (← text "sentence")
  | "gate-rejected" =>
      return .gateRejected (← pattern) (← Gate.ofName? (← text "gate")) (← text "message")
  | "validation-complete" =>
      return .validationComplete (← pattern) (← bool "valid") (← bool "correct")
        (← Tone.ofName? (← text "kind"))
  | "pattern-detected" => return .patternDetected (← pattern)
  | "hint-issued" => return .hintIssued (← pattern) (← text "hint")
  | "attempt-recorded" => return .attemptRecorded (← text "challenge") (← bool "correct")
  | "custom" => return .custom (← text "name") (← text "data")
  | _ => none

def Settings.toJson (settings : Settings) : Json :=
  .object [("enabled", .bool settings.enabled), ("buffer_size", .nat settings.capacity),
    ("json", .bool settings.json), ("stderr", .bool settings.echoes),
    ("filter", .strings settings.filter)]

/-- A member that may be missing or null, and then has the usual value. -/
def memberOr? {α : Type} (json : Json) (read? : Json → Option α) (key : String) (usual : α) :
    Option α :=
  match (json.member? key).getD .null with
  | .null => some usual
  | value => read? value

/-- Settings in which some members may be missing. -/
def Settings.ofJson? (json : Json) : Option Settings := do
  let usual := Settings.usual
  return {
    enabled := ← memberOr? json Json.bool? "enabled" usual.enabled
    capacity := ← memberOr? json (Json.natBelow? UInt64.size) "buffer_size" usual.capacity
    echoes := ← memberOr? json Json.bool? "stderr" usual.echoes
    json := ← memberOr? json Json.bool? "json" usual.json
    filter := ← memberOr? json (Json.list? Json.text?) "filter" usual.filter }

def Summary.toJson (summary : Summary) : Json :=
  .object [("record_count", .nat summary.recordCount), ("max_size", .nat summary.capacity),
    ("oldest_attempt", .optional .nat summary.oldestAttempt),
    ("newest_attempt", .optional .nat summary.newestAttempt),
    ("attempt_count", .nat summary.attemptCount),
    ("event_counts",
      .object (summary.kindCounts.map fun (kind, count) => (kind.name, .nat count))),
    ("rejections",
      .object (summary.gateCounts.map fun (gate, count) => (gate.name, .nat count)))]

end SentenceCards.Trace
