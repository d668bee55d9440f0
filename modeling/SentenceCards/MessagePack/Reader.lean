import SentenceCards.MessagePack.Fault

/-!
# Reading MessagePack

Bytes are read from the front, and every form of every type is read.  A value begins with a
marker; after it comes what a scalar consists of, or the number of items of a container.
-/

namespace SentenceCards.MessagePack

/-- A reading of the bytes at the front, which leaves the bytes after them. -/
abbrev Reader := StateT Bytes (Except Fault)

/-- The first `count` bytes and the bytes after them, if there are so many. -/
def splitAfter? : (count : Nat) → Bytes → Option (Bytes × Bytes)
  | 0, bytes => some ([], bytes)
  | _ + 1, [] => none
  | count + 1, byte :: bytes =>
      (splitAfter? count bytes).map fun (front, rest) => (byte :: front, rest)

theorem splitAfter?_append (front rest : Bytes) :
    splitAfter? front.length (front ++ rest) = some (front, rest) := by
  induction front with
  | nil => rfl
  | cons byte front ih => simp [splitAfter?, ih]

/-- Exactly `count` bytes, or else the fault. -/
def readBytes (fault : Fault) (count : Nat) : Reader Bytes := fun bytes =>
  match splitAfter? count bytes with
  | some (front, rest) => .ok (front, rest)
  | none => .error fault

/-- The number written as `bytes`, highest byte first. -/
def ofBigEndian (bytes : Bytes) : Nat :=
  bytes.foldl (fun n byte => n * 256 + byte.toNat) 0

/-- A natural number of `width` bytes. -/
def readNumber (width : Nat) : Reader Nat := do
  return ofBigEndian (← readBytes .shortNumber width)

/-- The bytes of a text, of binary data or of an extension. -/
def readContent (length : Nat) : Reader Bytes := readBytes .shortContent length

/-- The beginning of a value. -/
def readMarker : Reader Marker
  | [] => .error .noValue
  | byte :: rest => .ok (.ofByte byte, rest)

/-- The integer with the lowest `bits` bits of `n` in two's complement. -/
def asSigned (bits n : Nat) : Int :=
  if n < 1 <<< (bits - 1) then n else (n : Int) - (1 <<< bits : Nat)

/-- A scalar, or the beginning of a container. -/
inductive Head where
  | nil
  | bool (value : Bool)
  /-- A natural number in one of the forms without a sign. -/
  | natural (n : Nat)
  /-- An integer in one of the forms with a sign. -/
  | integer (n : Int)
  | float (value : Text.Binary64)
  /-- A text, whose bytes need not be UTF-8. -/
  | text (bytes : Bytes)
  | binary (bytes : Bytes)
  | array (count : Nat)
  | map (count : Nat)
  /-- An extension, whose kind and bytes have still to be read. -/
  | extension (length : Nat)

/-- Reads on after a marker. -/
def Marker.readHead : Marker → Reader Head
  | .nil => return .nil
  | .unused => throw (.wrongMarker .unused)
  | .bool value => return .bool value
  | .small n => return .natural n
  | .smallNegative n => return .integer n
  | .unsigned width => return .natural (← readNumber width)
  | .signed width => return .integer (asSigned (8 * width) (← readNumber width))
  | .float width => do
      let bits ← readNumber width
      return .float (if width = 4 then .ofBits32 bits else .ofBits64 bits)
  | .shortText length => return .text (← readContent length)
  | .text width => do return .text (← readContent (← readNumber width))
  | .binary width => do return .binary (← readContent (← readNumber width))
  | .shortArray count => return .array count
  | .array width => return .array (← readNumber width)
  | .shortMap count => return .map count
  | .map width => return .map (← readNumber width)
  | .fixedExtension length => return .extension length
  | .extension width => return .extension (← readNumber width)

/-- Reads `count` times. -/
def readTimes {α : Type} (read : Reader α) : (count : Nat) → Reader (List α)
  | 0 => return []
  | count + 1 => do
      let item ← read
      return item :: (← readTimes read count)

/-- Reads something `count` times and leaves it out. -/
def skipTimes (skip : Reader Unit) : (count : Nat) → Reader Unit
  | 0 => return
  | count + 1 => do
      skip
      skipTimes skip count

/-- Reads a whole value, in which at most `room` containers are inside each other, and leaves
it out.  An extension counts as a container. -/
def skipValue : (room : Nat) → Reader Unit
  | 0 => do
      match ← (← readMarker).readHead with
      | .array _ | .map _ | .extension _ => throw .tooDeep
      | _ => return
  | room + 1 => do
      match ← (← readMarker).readHead with
      | .array count => skipTimes (skipValue room) count
      | .map count => skipTimes (do skipValue room; skipValue room) count
      | .extension length =>
          let _ ← readNumber 1
          let _ ← readContent length
          return
      | _ => return

/-- The number of containers that may stand inside each other. -/
def depthLimit : Nat := 1023

end SentenceCards.MessagePack
