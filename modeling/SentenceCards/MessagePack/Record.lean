import SentenceCards.MessagePack.Decoder

/-!
# Records in MessagePack

A record is written as a map from field names to values.  It is read from such a map with its
entries in any order, or from a list of the values in the order of the fields.  While a record
is read, a draft holds the fields that have been found.
-/

namespace SentenceCards.MessagePack

/-- A field of a record with drafts in `δ`. -/
structure Field (δ : Type) where
  name : String
  /-- The draft has a value for the field. -/
  isFilled : δ → Bool
  /-- Reads a value for the field into the draft. -/
  fill : δ → Decoder δ

/-- The field with this name that is found at `get` and put there by `set`. -/
def Field.of {δ α : Type} (name : String) (decoder : Decoder α) (get : δ → Option α)
    (set : δ → α → δ) : Field δ where
  name := name
  isFilled draft := (get draft).isSome
  fill draft room marker := return set draft (← decoder room marker)

/-- How a record in `α` is read. -/
structure RecordFormat (δ α : Type) where
  /-- What the record is called in reports. -/
  name : String
  fields : List (Field δ)
  /-- A draft without fields. -/
  blank : δ
  /-- The record whose fields are in the draft. -/
  finish : δ → Except Fault α

/-- The value of a field that has to be there. -/
def required {α : Type} (name : String) : Option α → Except Fault α
  | some value => .ok value
  | none => .error (.missingField name)

namespace RecordFormat

variable {δ α : Type}

/-- The field that a key stands for, if it is one.  A key is a name, or the position of a
field. -/
def readKey (format : RecordFormat δ α) : Reader (Option (Field δ)) := do
  match ← (← readMarker).readHead with
  | .natural n => return format.fields[n]?
  | .text bytes | .binary bytes =>
      return format.fields.find? fun field => Bytes.ofText field.name == bytes
  | head => head.refuse "field identifier"

/-- Reads `count` entries of a map into a draft.  Entries that are no fields do not matter. -/
def readEntries (format : RecordFormat δ α) (room : Nat) : (count : Nat) → δ → Reader δ
  | 0, draft => return draft
  | count + 1, draft => do
      match ← format.readKey with
      | some field =>
          if field.isFilled draft then throw (.repeatedField field.name)
          format.readEntries room count (← field.fill draft room (← readMarker))
      | none =>
          skipValue room
          format.readEntries room count draft

/-- Fails because a list has only `count` items. -/
def refuseShort (format : RecordFormat δ α) (count : Nat) : Reader δ :=
  throw (.tooShort count s!"struct {format.name} with {format.fields.length} elements")

/-- Reads fields from the items of an array, `count` of which have not been read. -/
def readItems (format : RecordFormat δ α) (room : Nat) :
    (fields : List (Field δ)) → (count : Nat) → δ → Reader δ
  | [], 0, draft => return draft
  | [], _ + 1, _ => throw (.wrongCount format.fields.length)
  | _ :: fields, 0, _ => format.refuseShort (format.fields.length - (fields.length + 1))
  | field :: fields, count + 1, draft => do
      format.readItems room fields count (← field.fill draft room (← readMarker))

/-- Reads fields from the bytes of binary data. -/
def ofBytes (format : RecordFormat δ α) (room : Nat) :
    (fields : List (Field δ)) → Bytes → δ → Reader δ
  | [], _, draft => return draft
  | _ :: fields, [], _ => format.refuseShort (format.fields.length - (fields.length + 1))
  | field :: fields, byte :: bytes, draft => do
      format.ofBytes room fields bytes (← field.fill draft room (.small byte.toNat))

/-- Reads a record. -/
def decoder (format : RecordFormat δ α) : Decoder α := fun room marker => do
  let draft ← match ← marker.readHead with
    | .array count => inside room fun room => format.readItems room format.fields count format.blank
    | .map count => inside room fun room => format.readEntries room count format.blank
    | .binary bytes => format.ofBytes room format.fields bytes format.blank
    | head => head.refuse s!"struct {format.name}"
  format.finish draft

end RecordFormat

end SentenceCards.MessagePack
