import SentenceCards.MessagePack.Value

/-!
# Writing MessagePack

Natural numbers and the lengths of texts, arrays and maps are written in the shortest
form that holds them.
-/

namespace SentenceCards.MessagePack

/-- The lowest `width` bytes of a number, highest first. -/
def bigEndian : (width n : Nat) → Bytes
  | 0, _ => []
  | width + 1, n => bigEndian width (n / 256) ++ [UInt8.ofNat n]

/-- A natural number. -/
def writtenNatural (n : Nat) : Bytes :=
  if n < 0x80 then [UInt8.ofNat n]
  else if n < UInt8.size then 0xCC :: bigEndian 1 n
  else if n < UInt16.size then 0xCD :: bigEndian 2 n
  else if n < UInt32.size then 0xCE :: bigEndian 4 n
  else 0xCF :: bigEndian 8 n

/-- A length as it is written: there is room for 32 bits of it. -/
def writtenLength (length : Nat) : Nat := length % UInt32.size

theorem writtenLength_of_lt {length : Nat} (small : length < UInt32.size) :
    writtenLength length = length :=
  Nat.mod_eq_of_lt small

/-- The head of a text of `length` bytes. -/
def textHead (length : Nat) : Bytes :=
  if length < 0x20 then [UInt8.ofNat (0xA0 + length)]
  else if length < UInt8.size then 0xD9 :: bigEndian 1 length
  else if length < UInt16.size then 0xDA :: bigEndian 2 length
  else 0xDB :: bigEndian 4 length

/-- The head of an array of `count` items. -/
def arrayHead (count : Nat) : Bytes :=
  if count < 0x10 then [UInt8.ofNat (0x90 + count)]
  else if count < UInt16.size then 0xDC :: bigEndian 2 count
  else 0xDD :: bigEndian 4 count

/-- The head of a map of `count` entries. -/
def mapHead (count : Nat) : Bytes :=
  if count < 0x10 then [UInt8.ofNat (0x80 + count)]
  else if count < UInt16.size then 0xDE :: bigEndian 2 count
  else 0xDF :: bigEndian 4 count

/-- The bytes of a text, after their number. -/
def writtenText (text : String) : Bytes :=
  let bytes := Bytes.ofText text
  textHead (writtenLength bytes.length) ++ bytes

mutual

/-- The bytes of a value. -/
def written : Value → Bytes
  | .bool false => [0xC2]
  | .bool true => [0xC3]
  | .natural n => writtenNatural n
  | .text text => writtenText text
  | .array items => arrayHead (writtenLength items.length) ++ writtenItems items
  | .record fields => mapHead (writtenLength fields.length) ++ writtenFields fields

def writtenItems : List Value → Bytes
  | [] => []
  | item :: rest => written item ++ writtenItems rest

def writtenFields : List (String × Value) → Bytes
  | [] => []
  | (name, value) :: rest => writtenText name ++ written value ++ writtenFields rest

end

end SentenceCards.MessagePack
