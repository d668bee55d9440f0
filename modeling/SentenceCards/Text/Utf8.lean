import SentenceCards.Bytes

/-!
# UTF-8

Where bytes stop being UTF-8, and what is read from them all the same.
-/

namespace SentenceCards.Text

/-- Where bytes stop being UTF-8. -/
inductive Utf8Fault where
  /-- After `index` bytes, `width` bytes stand that no character begins with. -/
  | broken (index width : Nat)
  /-- After `index` bytes, the input ends within a character. -/
  | cutOff (index : Nat)
  deriving DecidableEq, Inhabited

/-- How the place is reported. -/
def Utf8Fault.message : Utf8Fault → String
  | .broken index width => s!"invalid utf-8 sequence of {width} bytes from index {index}"
  | .cutOff index => s!"incomplete utf-8 byte sequence from index {index}"

/-- The bytes that can follow the first byte of a character, each as a range: none for a
character of one byte.  `none` if no character begins with this byte. -/
def followers? (first : Nat) : Option (List (Nat × Nat)) :=
  let any := (0x80, 0xBF)
  if first < 0x80 then some []
  else if first < 0xC2 then none
  else if first < 0xE0 then some [any]
  else if first = 0xE0 then some [(0xA0, 0xBF), any]
  else if first = 0xED then some [(0x80, 0x9F), any]
  else if first < 0xF0 then some [any, any]
  else if first = 0xF0 then some [(0x90, 0xBF), any, any]
  else if first < 0xF4 then some [any, any, any]
  else if first = 0xF4 then some [(0x80, 0x8F), any, any]
  else none

/-- The number of bytes that follow as they can, and whether the first one that does not is
there at all. -/
def following : List (Nat × Nat) → Bytes → Nat × Bool
  | [], _ => (0, true)
  | _ :: _, [] => (0, false)
  | range :: ranges, byte :: bytes =>
      if range.1 ≤ byte.toNat && byte.toNat ≤ range.2 then
        let (count, complete) := following ranges bytes
        (count + 1, complete)
      else (0, true)

/-- What stands at the front of bytes. -/
inductive Utf8Front where
  /-- A character of this many bytes. -/
  | character (width : Nat)
  /-- So many bytes that no character begins with. -/
  | broken (width : Nat)
  /-- The beginning of a character, and then no more input. -/
  | cutOff
  deriving DecidableEq, Inhabited

/-- What begins with a byte, given the bytes after it. -/
def Utf8Front.of (first : UInt8) (rest : Bytes) : Utf8Front :=
  match followers? first.toNat with
  | none => .broken 1
  | some ranges =>
      let (count, complete) := following ranges rest
      if count = ranges.length then .character (count + 1)
      else if complete then .broken (count + 1)
      else .cutOff

/-- The first place at which bytes after `index` others stop being UTF-8. -/
def utf8Fault? (index : Nat) : Bytes → Option Utf8Fault
  | [] => none
  | first :: rest =>
      match Utf8Front.of first rest with
      | .character width => utf8Fault? (index + width) (rest.drop (width - 1))
      | .broken width => some (.broken index width)
      | .cutOff => some (.cutOff index)
termination_by bytes => bytes.length
decreasing_by all_goals simp only [List.length_drop, List.length_cons]; omega

/-- The text that bytes are the UTF-8 of. -/
def ofUtf8 (bytes : Bytes) : Except Utf8Fault String :=
  match bytes.text? with
  | some text => .ok text
  | none => .error ((utf8Fault? 0 bytes).getD (.cutOff bytes.length))

/-- The text that is read from bytes when what is not UTF-8 is replaced by the replacement
character. -/
def ofUtf8Loosely : Bytes → String
  | [] => ""
  | first :: rest =>
      match Utf8Front.of first rest with
      | .character width =>
          (Bytes.text? (first :: rest.take (width - 1))).getD "\uFFFD" ++
            ofUtf8Loosely (rest.drop (width - 1))
      | .broken width => "\uFFFD" ++ ofUtf8Loosely (rest.drop (width - 1))
      | .cutOff => "\uFFFD"
termination_by bytes => bytes.length
decreasing_by all_goals simp only [List.length_drop, List.length_cons]; omega

end SentenceCards.Text
