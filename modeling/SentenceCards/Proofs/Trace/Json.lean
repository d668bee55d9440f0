import Mathlib.Data.List.Nodup
import SentenceCards.Proofs.Json.Reading
import SentenceCards.Proofs.Json.Writing
import SentenceCards.Trace.Stored

/-!
# Records as JSON

The text of records in JSON is a JSON text, for the array of their objects and nothing else.  A
record is read back from its object, so the text determines the records.
-/

namespace SentenceCards.Trace

/-- A natural number of any size. -/
def natural? : Json → Option Nat
  | .integer (.ofNat n) => some n
  | _ => none

/-- The record that an object describes. -/
def Record.ofJson? (json : Json) : Option Record := do
  return {
    id := ← memberOf? json natural? "id"
    attempt := ← memberOf? json natural? "attempt"
    time := ← memberOf? json natural? "timestamp_ns"
    event := ← Event.ofJson? json }

/-- The names of the members that the events of a kind have of their own. -/
def Kind.fieldNames : Kind → List String
  | .validationStart => ["pattern", "sentence"]
  | .gateRejected => ["pattern", "gate", "message"]
  | .validationComplete => ["pattern", "valid", "correct", "kind"]
  | .patternDetected => ["pattern"]
  | .hintIssued => ["pattern", "hint"]
  | .attemptRecorded => ["challenge", "correct"]
  | .custom => ["name", "data"]

/-- The names of the members of a record with an event of the kind. -/
def Kind.memberNames (kind : Kind) : List String :=
  ["id", "attempt", "timestamp_ns", "type"] ++ kind.fieldNames

theorem Kind.nodup_memberNames (kind : Kind) : kind.memberNames.Nodup := by
  cases kind <;> decide

/-- The members of the object of a record. -/
def Record.members (record : Record) : List (String × Json) :=
  [("id", .nat record.id), ("attempt", .nat record.attempt),
    ("timestamp_ns", .nat record.time), ("type", .string record.event.kind.name)] ++
    record.event.members

theorem Event.members_names (event : Event) :
    event.members.map Prod.fst = event.kind.fieldNames := by
  cases event <;> rfl

theorem Record.members_names (record : Record) :
    record.members.map Prod.fst = record.event.kind.memberNames := by
  rw [Record.members, List.map_append, Event.members_names]
  rfl

section Lookup

variable {key : String} {value : Json} {members : List (String × Json)}

theorem lookup_of_mem (different : (members.map Prod.fst).Nodup) (listed : (key, value) ∈ members) :
    members.lookup key = some value := by
  obtain ⟨front, back, rfl⟩ := List.append_of_mem listed
  rw [List.map_append, List.nodup_append] at different
  obtain ⟨_, _, apart⟩ := different
  apply List.lookup_eq_some_iff.mpr
  refine ⟨front, back, rfl, ?_⟩
  intro member before
  have other : member.1 ≠ key :=
    apart member.1 (List.mem_map_of_mem before) key (List.mem_map_of_mem List.mem_cons_self)
  exact bne_iff_ne.mpr other.symm

theorem member?_of_mem (different : (members.map Prod.fst).Nodup)
    (listed : (key, value) ∈ members) : (Json.object members).member? key = some value := by
  apply lookup_of_mem
  · rw [List.map_reverse, List.nodup_reverse]
    exact different
  · exact List.mem_reverse.mpr listed

end Lookup

theorem Record.member?_toJson (record : Record) :
    ∀ member ∈ record.members, record.toJson.member? member.1 = some member.2 := by
  intro member listed
  apply member?_of_mem
  · show (record.members.map Prod.fst).Nodup
    rw [Record.members_names]
    exact record.event.kind.nodup_memberNames
  · exact listed

theorem ofName?_gate (gate : Gate) : Gate.ofName? gate.name = some gate := by
  cases gate <;> decide

theorem ofName?_tone (tone : Tone) : Tone.ofName? tone.name = some tone := by
  cases tone <;> decide

theorem ofJson?_pattern (pattern : Pattern) :
    Pattern.ofJson? (.string pattern.name) = some pattern :=
  Pattern.ofName?_name pattern

theorem Event.ofJson?_of_members {json : Json} {event : Event}
    (kind : json.member? "type" = some (.string event.kind.name))
    (each : ∀ member ∈ event.members, json.member? member.1 = some member.2) :
    Event.ofJson? json = some event := by
  cases event <;>
    simp only [Event.members, List.forall_mem_cons] at each <;>
    simp [Event.ofJson?, memberOf?, kind, each, Event.kind, Kind.name, Json.text?, Json.bool?,
      ofName?_gate, ofName?_tone, ofJson?_pattern]

theorem Record.ofJson?_toJson (record : Record) : Record.ofJson? record.toJson = some record := by
  have each := record.member?_toJson
  rw [Record.members, List.forall_mem_append] at each
  obtain ⟨common, own⟩ := each
  simp only [List.forall_mem_cons] at common
  obtain ⟨id, attempt, time, kind, _⟩ := common
  have event := Event.ofJson?_of_members kind own
  simp [Record.ofJson?, memberOf?, id, attempt, time, event, natural?, Json.nat]

section Text

open Json (Plain IsText IsGap Denotes written denotes_array isGap_nil isSpace)

theorem Event.plain_members (event : Event) : ∀ member ∈ event.members, Plain member.2 := by
  cases event <;> simp [Event.members, Plain.string, Plain.bool]

theorem Record.plain_toJson (record : Record) : Plain record.toJson := by
  apply Plain.object
  rw [List.forall_mem_append]
  constructor
  · simp [Json.nat, Plain.integer, Plain.string]
  · exact record.event.plain_members

theorem Record.isText_render (record : Record) : IsText record.toJson.render record.toJson := by
  rw [IsText, Json.render, String.toList_ofList]
  exact record.plain_toJson.denotes_written.unspaced

theorem isText_jsonText (spread : Bool) (records : List Record) :
    IsText (jsonText spread records) (.array (records.map Record.toJson)) := by
  have each : ∀ value ∈ records.map Record.toJson, Denotes (written value) (.value value) := by
    rw [List.forall_mem_map]
    exact fun record _ => record.plain_toJson.denotes_written
  have items : (records.map fun record => record.toJson.render).map String.toList =
      (records.map Record.toJson).map written := by
    simp [Json.render]
  unfold IsText jsonText
  cases spread with
  | false =>
      have array := denotes_array isGap_nil isGap_nil each
      simp only [Bool.false_eq_true, if_false, String.toList_append, String.toList_intercalate,
        items]
      simpa using array.unspaced
  | true =>
      have opening : IsGap ['\n', ' ', ' '] := by simp [IsGap, isSpace]
      have closing : IsGap ['\n'] := by simp [IsGap, isSpace]
      have array := denotes_array opening closing each
      simp only [if_true, String.toList_append, String.toList_intercalate, items]
      simpa using array.unspaced

theorem Record.no_newline_render (record : Record) : '\n' ∉ record.toJson.render.toList := by
  intro newline
  rw [Json.render, String.toList_ofList] at newline
  have shown := record.plain_toJson.shows '\n' newline
  cases shown

theorem Record.eq_of_toJson_eq {one other : Record} (same : one.toJson = other.toJson) :
    one = other := by
  have read := one.ofJson?_toJson
  rw [same, other.ofJson?_toJson] at read
  exact (Option.some.inj read).symm

theorem eq_of_jsonText_eq {spread layout : Bool} {ones others : List Record}
    (same : jsonText spread ones = jsonText layout others) : ones = others := by
  have isText := isText_jsonText spread ones
  rw [same] at isText
  have array := (isText_jsonText layout others).unique isText
  have objects : others.map Record.toJson = ones.map Record.toJson := Json.array.inj array
  exact (List.map_injective_iff.mpr (fun _ _ => Record.eq_of_toJson_eq) objects).symm

/-- The text of records is JSON, on one line or spread over several, and stands for the array of the
objects of the records and for no other value.  An object has the members that belong to its kind of
event, each once, and the record is read back from it; its own text is on one line.  Different
records have different texts, and so have different lists of records. -/
theorem json_determines_records :
    (∀ (spread : Bool) (records : List Record) (value : Json),
      IsText (jsonText spread records) value ↔ value = .array (records.map Record.toJson)) ∧
    (∀ record : Record, ∃ members, record.toJson = .object members ∧
      members.map Prod.fst =
        ["id", "attempt", "timestamp_ns", "type"] ++ record.event.kind.fieldNames ∧
      (members.map Prod.fst).Nodup ∧ Record.ofJson? record.toJson = some record) ∧
    (∀ (record : Record) (value : Json),
      IsText record.toJson.render value ↔ value = record.toJson) ∧
    (∀ record : Record, '\n' ∉ record.toJson.render.toList) ∧
    (∀ one other : Record, one ≠ other → one.toJson.render ≠ other.toJson.render) ∧
    ∀ (spread layout : Bool) (ones others : List Record), ones ≠ others →
      jsonText spread ones ≠ jsonText layout others := by
  refine ⟨?_, ?_, ?_, Record.no_newline_render, ?_, ?_⟩
  · intro spread records value
    constructor
    · intro isText
      exact isText.unique (isText_jsonText spread records)
    · rintro rfl
      exact isText_jsonText spread records
  · intro record
    refine ⟨record.members, rfl, record.members_names, ?_, record.ofJson?_toJson⟩
    rw [record.members_names]
    exact record.event.kind.nodup_memberNames
  · intro record value
    constructor
    · intro isText
      exact isText.unique record.isText_render
    · rintro rfl
      exact record.isText_render
  · intro one other different same
    have isText := one.isText_render
    rw [same] at isText
    exact different (Record.eq_of_toJson_eq (isText.unique other.isText_render))
  · intro spread layout ones others different same
    exact different (eq_of_jsonText_eq same)

end Text

end SentenceCards.Trace
