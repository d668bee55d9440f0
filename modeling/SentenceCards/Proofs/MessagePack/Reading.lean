import Mathlib.Algebra.Group.Nat.Defs
import Mathlib.Tactic.SplitIfs
import SentenceCards.MessagePack.Decoder
import SentenceCards.MessagePack.Writer

/-!
# Reading the heads of written values

What is written is read back, and nothing after it is touched: `Reads` says so of a reader, some
bytes and a value.  A value begins with a marker and what the marker asks for (`Opens`), in one of
several forms that are told apart by the size of a number.
-/

namespace SentenceCards

namespace Bytes

theorem text?_ofText (text : String) : text? (ofText text) = some text := by
  have same : (ofText text).toByteArray = text.toByteArray := by
    apply ByteArray.ext
    rw [List.data_toByteArray]
    rfl
  rw [text?, same, String.fromUTF8?, dif_pos text.isValidUTF8]
  rfl

theorem ofText_of_text? {bytes : Bytes} {text : String} (found : text? bytes = some text) :
    ofText text = bytes := by
  unfold text? String.fromUTF8? at found
  split at found
  · cases found
    show (String.fromUTF8 _ _).toByteArray.data.toList = bytes
    simp [String.fromUTF8]
  · cases found

theorem ofText_injective {text other : String} (same : ofText text = ofText other) :
    text = other := by
  have texts := text?_ofText text
  rw [same, text?_ofText] at texts
  exact (Option.some.inj texts).symm

theorem length_ofText (text : String) : (ofText text).length = text.utf8ByteSize := by
  rw [ofText, Array.length_toList]
  exact String.size_toByteArray

end Bytes

namespace MessagePack

variable {α β : Type}

/-- The reader takes these bytes off the front, and makes this of them. -/
def Reads (reader : Reader α) (bytes : Bytes) (value : α) : Prop :=
  ∀ rest, reader (bytes ++ rest) = .ok (value, rest)

namespace Reads

theorem pure (value : α) : Reads (pure value) [] value := by
  intro rest
  rfl

theorem bind {first : Reader α} {next : α → Reader β} {front back : Bytes} {value : α}
    {result : β} (one : Reads first front value) (other : Reads (next value) back result) :
    Reads (first >>= next) (front ++ back) result := by
  intro rest
  rw [List.append_assoc]
  show (first (front ++ (back ++ rest)) >>= fun (value, rest) => next value rest) = _
  rw [one]
  exact other rest

/-- What is made of the value in the end takes no bytes. -/
theorem result {reader : Reader α} {bytes : Bytes} {value : α} (reads : Reads reader bytes value)
    (change : α → β) : Reads (do return change (← reader)) bytes (change value) := by
  have changed : Reads (do return change (← reader)) (bytes ++ []) (change value) :=
    reads.bind (pure (change value))
  rwa [List.append_nil] at changed

theorem bytes (fault : Fault) (bytes : Bytes) :
    Reads (readBytes fault bytes.length) bytes bytes := by
  intro rest
  rw [readBytes, splitAfter?_append]

end Reads

section Numbers

theorem length_bigEndian (width n : Nat) : (bigEndian width n).length = width := by
  induction width generalizing n with
  | zero => rfl
  | succ width ih => rw [bigEndian, List.length_append, ih, List.length_singleton]

theorem ofBigEndian_concat (bytes : Bytes) (byte : UInt8) :
    ofBigEndian (bytes ++ [byte]) = ofBigEndian bytes * 256 + byte.toNat := by
  rw [ofBigEndian, List.foldl_append]
  rfl

theorem ofBigEndian_bigEndian {width n : Nat} (small : n < 256 ^ width) :
    ofBigEndian (bigEndian width n) = n := by
  induction width generalizing n with
  | zero =>
      have zero : n = 0 := Nat.lt_one_iff.mp small
      rw [zero]
      rfl
  | succ width ih =>
      have high : n / 256 < 256 ^ width := Nat.div_lt_of_lt_mul (by rwa [← Nat.pow_succ'])
      have low : (UInt8.ofNat n).toNat = n % 256 := UInt8.toNat_ofNat'
      rw [bigEndian, ofBigEndian_concat, ih high, low, Nat.div_add_mod']

theorem reads_number {width n : Nat} (small : n < 256 ^ width) :
    Reads (readNumber width) (bigEndian width n) n := by
  have number := (Reads.bytes .shortNumber (bigEndian width n)).result ofBigEndian
  rwa [length_bigEndian, ofBigEndian_bigEndian small] at number

theorem reads_content (bytes : Bytes) : Reads (readContent bytes.length) bytes bytes :=
  Reads.bytes .shortContent bytes

end Numbers

/-- The bytes are a marker and what it asks for, which comes to this head. -/
def Opens (bytes : Bytes) (marker : Marker) (head : Head) : Prop :=
  ∃ first rest, bytes = first :: rest ∧ Marker.ofByte first = marker ∧
    Reads marker.readHead rest head

namespace Opens

/-- After the marker, a reader that reads the head first goes on with what comes after it. -/
theorem reads {bytes : Bytes} {marker : Marker} {head : Head} (opens : Opens bytes marker head)
    {after : Marker → Reader α} {next : Head → Reader α} {more : Bytes} {value : α}
    (goesOn : after marker = marker.readHead >>= next) (rest : Reads (next head) more value) :
    Reads (readMarker >>= after) (bytes ++ more) value := by
  obtain ⟨first, others, rfl, rfl, read⟩ := opens
  intro input
  -- Only the marker has been taken off the front by now.
  show after (.ofByte first) (others ++ more ++ input) = _
  rw [goesOn]
  exact read.bind rest input

theorem reads_alone {bytes : Bytes} {marker : Marker} {head : Head}
    (opens : Opens bytes marker head) {after : Marker → Reader α} {next : Head → Reader α}
    {value : α} (goesOn : after marker = marker.readHead >>= next)
    (rest : Reads (next head) [] value) : Reads (readMarker >>= after) bytes value := by
  have whole := opens.reads goesOn rest
  rwa [List.append_nil] at whole

/-- The whole head is in the marker. -/
theorem short {first : UInt8} {marker : Marker} {head : Head}
    (byte : Marker.ofByte first = marker) (whole : marker.readHead = pure head) :
    Opens [first] marker head := by
  refine ⟨first, [], rfl, byte, ?_⟩
  rw [whole]
  exact .pure head

/-- The head is a number after the marker. -/
theorem sized {first : UInt8} {marker : Marker} {width n : Nat} {head : Nat → Head}
    (byte : Marker.ofByte first = marker)
    (numbered : marker.readHead = do return head (← readNumber width)) (small : n < 256 ^ width) :
    Opens (first :: bigEndian width n) marker (head n) := by
  refine ⟨first, _, rfl, byte, ?_⟩
  rw [numbered]
  exact (reads_number small).result head

/-- The head is the bytes of a text, after their number. -/
theorem text {first : UInt8} {marker : Marker} {width : Nat} {bytes : Bytes}
    (byte : Marker.ofByte first = marker)
    (numbered : marker.readHead = do return .text (← readContent (← readNumber width)))
    (small : bytes.length < 256 ^ width) :
    Opens (first :: bigEndian width bytes.length ++ bytes) marker (.text bytes) := by
  refine ⟨first, _, rfl, byte, ?_⟩
  rw [numbered]
  exact (reads_number small).bind ((reads_content bytes).result Head.text)

end Opens

/-- A text begins in this way. -/
def Marker.isText : Marker → Bool
  | .shortText _ | .text _ => true
  | _ => false

section Heads

theorem ofByte_small : ∀ n < 0x80, Marker.ofByte (UInt8.ofNat n) = .small n := by decide

theorem ofByte_shortMap :
    ∀ count < 0x10, Marker.ofByte (UInt8.ofNat (0x80 + count)) = .shortMap count := by decide

theorem ofByte_shortArray :
    ∀ count < 0x10, Marker.ofByte (UInt8.ofNat (0x90 + count)) = .shortArray count := by decide

theorem ofByte_shortText :
    ∀ length < 0x20, Marker.ofByte (UInt8.ofNat (0xA0 + length)) = .shortText length := by decide

theorem opens_natural {n : Nat} (small : n < 256 ^ 8) :
    ∃ marker : Marker, marker.isScalar = true ∧ Opens (writtenNatural n) marker (.natural n) := by
  unfold writtenNatural
  split_ifs with tiny one two four
  · exact ⟨.small n, rfl, .short (ofByte_small n tiny) rfl⟩
  · exact ⟨.unsigned 1, rfl, .sized rfl rfl one⟩
  · exact ⟨.unsigned 2, rfl, .sized rfl rfl two⟩
  · exact ⟨.unsigned 4, rfl, .sized rfl rfl four⟩
  · exact ⟨.unsigned 8, rfl, .sized rfl rfl small⟩

theorem opens_text {bytes : Bytes} (small : bytes.length < UInt32.size) :
    ∃ marker : Marker, marker.isText = true ∧
      Opens (textHead bytes.length ++ bytes) marker (.text bytes) := by
  unfold textHead
  split_ifs with few one two
  · exact ⟨.shortText bytes.length, rfl, _, bytes, rfl, ofByte_shortText bytes.length few,
      (reads_content bytes).result Head.text⟩
  · exact ⟨.text 1, rfl, .text rfl rfl one⟩
  · exact ⟨.text 2, rfl, .text rfl rfl two⟩
  · exact ⟨.text 4, rfl, .text rfl rfl small⟩

theorem opens_array {count : Nat} (small : count < UInt32.size) :
    ∃ marker, Opens (arrayHead count) marker (.array count) := by
  unfold arrayHead
  split_ifs with few two
  · exact ⟨.shortArray count, .short (ofByte_shortArray count few) rfl⟩
  · exact ⟨.array 2, .sized rfl rfl two⟩
  · exact ⟨.array 4, .sized rfl rfl small⟩

theorem opens_map {count : Nat} (small : count < UInt32.size) :
    ∃ marker, Opens (mapHead count) marker (.map count) := by
  unfold mapHead
  split_ifs with few two
  · exact ⟨.shortMap count, .short (ofByte_shortMap count few) rfl⟩
  · exact ⟨.map 2, .sized rfl rfl two⟩
  · exact ⟨.map 4, .sized rfl rfl small⟩

end Heads

end MessagePack

end SentenceCards
