/-!
# MessagePack markers

The first byte of a value says of what type it is.  It also holds the value itself if that is
small enough, or the number of bytes in which a number or a length follows.
-/

namespace SentenceCards.MessagePack

/-- What the first byte of a value says. -/
inductive Marker where
  | nil
  /-- No value begins with this byte. -/
  | unused
  | bool (value : Bool)
  /-- This natural number. -/
  | small (n : Nat)
  /-- This number below zero. -/
  | smallNegative (n : Int)
  /-- A natural number of `width` bytes. -/
  | unsigned (width : Nat)
  /-- An integer of `width` bytes in two's complement. -/
  | signed (width : Nat)
  /-- A floating point number of `width` bytes. -/
  | float (width : Nat)
  /-- A text of `length` bytes. -/
  | shortText (length : Nat)
  /-- A text after its length, which has `width` bytes. -/
  | text (width : Nat)
  /-- Binary data after their length, which has `width` bytes. -/
  | binary (width : Nat)
  /-- An array of `count` items. -/
  | shortArray (count : Nat)
  /-- An array after the number of its items, which has `width` bytes. -/
  | array (width : Nat)
  /-- A map of `count` entries. -/
  | shortMap (count : Nat)
  /-- A map after the number of its entries, which has `width` bytes. -/
  | map (width : Nat)
  /-- An extension of `length` bytes. -/
  | fixedExtension (length : Nat)
  /-- An extension after its length, which has `width` bytes. -/
  | extension (width : Nat)
  deriving DecidableEq, Inhabited

namespace Marker

/-- The marker of a value that begins with a byte from 0xC0 to 0xDF. -/
def ofLongByte : (byte : Nat) → Marker
  | 0xC0 => .nil
  | 0xC2 => .bool false
  | 0xC3 => .bool true
  | 0xC4 => .binary 1
  | 0xC5 => .binary 2
  | 0xC6 => .binary 4
  | 0xC7 => .extension 1
  | 0xC8 => .extension 2
  | 0xC9 => .extension 4
  | 0xCA => .float 4
  | 0xCB => .float 8
  | 0xCC => .unsigned 1
  | 0xCD => .unsigned 2
  | 0xCE => .unsigned 4
  | 0xCF => .unsigned 8
  | 0xD0 => .signed 1
  | 0xD1 => .signed 2
  | 0xD2 => .signed 4
  | 0xD3 => .signed 8
  | 0xD4 => .fixedExtension 1
  | 0xD5 => .fixedExtension 2
  | 0xD6 => .fixedExtension 4
  | 0xD7 => .fixedExtension 8
  | 0xD8 => .fixedExtension 16
  | 0xD9 => .text 1
  | 0xDA => .text 2
  | 0xDB => .text 4
  | 0xDC => .array 2
  | 0xDD => .array 4
  | 0xDE => .map 2
  | 0xDF => .map 4
  | _ => .unused

/-- The marker of a value that begins with a byte. -/
def ofByte (byte : UInt8) : Marker :=
  let n := byte.toNat
  if n < 0x80 then .small n
  else if n < 0x90 then .shortMap (n - 0x80)
  else if n < 0xA0 then .shortArray (n - 0x90)
  else if n < 0xC0 then .shortText (n - 0xA0)
  else if n < 0xE0 then ofLongByte n
  else .smallNegative (n - 256)

/-- The value is nil, a truth value or a number. -/
def isScalar : Marker → Bool
  | .nil | .bool _ | .small _ | .smallNegative _ | .unsigned _ | .signed _ | .float _ => true
  | _ => false

/-- The name of a marker in reports. -/
def name : Marker → String
  | .nil => "Null"
  | .unused => "Reserved"
  | .bool true => "True"
  | .bool false => "False"
  | .small n => s!"FixPos({n})"
  | .smallNegative n => s!"FixNeg({n})"
  | .unsigned width => "U" ++ toString (8 * width)
  | .signed width => "I" ++ toString (8 * width)
  | .float width => "F" ++ toString (8 * width)
  | .shortText length => s!"FixStr({length})"
  | .text width => "Str" ++ toString (8 * width)
  | .binary width => "Bin" ++ toString (8 * width)
  | .shortArray count => s!"FixArray({count})"
  | .array width => "Array" ++ toString (8 * width)
  | .shortMap count => s!"FixMap({count})"
  | .map width => "Map" ++ toString (8 * width)
  | .fixedExtension length => "FixExt" ++ toString length
  | .extension width => "Ext" ++ toString (8 * width)

end Marker

end SentenceCards.MessagePack
