import SentenceCards.MessagePack.Reader

/-!
# Decoders

A decoder reads a value that has to be of a certain type.  It fails at the first byte from which
the fault can be seen.  A list is an array, and binary data are taken for the list of their bytes.
-/

namespace SentenceCards.MessagePack

/-- Reads a value after its marker, with at most `room` containers inside each other. -/
abbrev Decoder (α : Type) := (room : Nat) → Marker → Reader α

/-- Reads a value. -/
def Decoder.read {α : Type} (decoder : Decoder α) (room : Nat) : Reader α := do
  decoder room (← readMarker)

/-- Reads what is inside a container. -/
def inside {α : Type} (room : Nat) (read : (room : Nat) → Reader α) : Reader α :=
  match room with
  | 0 => throw .tooDeep
  | room + 1 => read room

/-- The text that bytes are the UTF-8 of. -/
def utf8 (bytes : Bytes) : Reader String :=
  match Text.ofUtf8 bytes with
  | .ok text => return text
  | .error fault => throw (.notUtf8 fault)

/-- Fails because a value begins in the wrong way. -/
def Head.refuse {α : Type} (expected : String) : Head → Reader α
  | .nil => throw (.wrongType .nil expected)
  | .bool value => throw (.wrongType (.bool value) expected)
  | .natural n => throw (.wrongType (.integer n) expected)
  | .integer n => throw (.wrongType (.integer n) expected)
  | .float value => throw (.wrongType (.float value) expected)
  | .text bytes => do throw (.wrongType (.text (← utf8 bytes)) expected)
  | .binary _ => throw (.wrongType .binary expected)
  | .array _ => throw (.wrongType .array expected)
  | .map _ => throw (.wrongType .map expected)
  | .extension _ => throw (.wrongType .extension expected)

namespace Decoder

/-- A string: a text, or binary data that are the UTF-8 of one. -/
def string : Decoder String := fun _ marker => do
  match ← marker.readHead with
  | .text bytes => utf8 bytes
  | .binary bytes =>
      match bytes.text? with
      | some text => return text
      | none => throw (.wrongValue .binary "a string")
  | head => head.refuse "a string"

/-- Nil, a truth value or a number.  All else is refused at its marker. -/
def scalar (marker : Marker) : Reader Head :=
  if marker.isScalar then marker.readHead else throw (.wrongMarker marker)

/-- A truth value. -/
def bool : Decoder Bool := fun _ marker => do
  match ← scalar marker with
  | .bool value => return value
  | head => head.refuse "a boolean"

/-- A natural number below `2 ^ 32`, in any of the forms for integers. -/
def word32 : Decoder UInt32 := fun _ marker => do
  match ← scalar marker with
  | .natural n =>
      if n < UInt32.size then return n.toUInt32
      else throw (.wrongValue (.integer n) "u32")
  | .integer n =>
      if 0 ≤ n ∧ n < UInt32.size then return n.toNat.toUInt32
      else throw (.wrongValue (.integer n) "u32")
  | head => head.refuse "u32"

/-- A list of what another decoder reads. -/
def list {α : Type} (item : Decoder α) : Decoder (List α) := fun room marker => do
  match ← marker.readHead with
  | .array count => inside room fun room => readTimes (item.read room) count
  | .binary bytes => bytes.mapM fun byte => item room (.small byte.toNat)
  | head => head.refuse "a sequence"

/-- The listed alternative with a name. -/
def choiceNamed {α : Type} (choices : List (String × α)) (name : String) : Reader α :=
  match choices.lookup name with
  | some value => return value
  | none => throw (.unknownAlternative name (choices.map Prod.fst))

/-- One of the listed alternatives, given by its name or by its position. -/
def choice {α : Type} (choices : List (String × α)) (marker : Marker) : Reader α := do
  match ← marker.readHead with
  | .natural n =>
      match choices[n]? with
      | some (_, value) => return value
      | none => throw (.wrongValue (.integer n) s!"variant index 0 <= i < {choices.length}")
  | .text bytes => choiceNamed choices (← utf8 bytes)
  | .binary bytes => choiceNamed choices (Text.ofUtf8Loosely bytes)
  | head => head.refuse "variant identifier"

/-- Reads the value nil. -/
def readNil : Reader Unit := do
  match ← readMarker with
  | .nil => return
  | marker => throw (.wrongMarker marker)

/-- One of the listed alternatives, which is the only key of a map with `count` entries.  Its
value is nil. -/
def choiceInMap {α : Type} (choices : List (String × α)) (count : Nat) : Reader α := do
  if count ≠ 1 then throw (.wrongCount count)
  let value ← choice choices (← readMarker)
  readNil
  return value

/-- One of the listed alternatives, given as it is or as the only key of a map. -/
def alternative {α : Type} (choices : List (String × α)) : Decoder α := fun _ marker =>
  match marker with
  | .shortMap count => choiceInMap choices count
  | .map width => do choiceInMap choices (← readNumber width)
  | marker => choice choices marker

end Decoder

end SentenceCards.MessagePack
