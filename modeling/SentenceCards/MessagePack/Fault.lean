import SentenceCards.MessagePack.Marker
import SentenceCards.Text.Quoted
import SentenceCards.Text.Shortest
import SentenceCards.Text.Utf8

/-!
# Faults in MessagePack

Why bytes are not the MessagePack form of what is asked for.
-/

namespace SentenceCards.MessagePack

/-- What is found in place of what is asked for. -/
inductive Found where
  | nil
  | bool (value : Bool)
  | integer (n : Int)
  | float (value : Text.Binary64)
  | text (content : String)
  | binary
  | array
  | map
  | extension
  deriving DecidableEq, Inhabited

/-- What is found, as said in reports. -/
def Found.description : Found → String
  | .nil => "unit value"
  | .bool value => s!"boolean `{value}`"
  | .integer n => s!"integer `{n}`"
  | .float value => s!"floating point `{value.text}`"
  | .text content => "string " ++ Text.quoted content
  | .binary => "byte array"
  | .array => "sequence"
  | .map => "map"
  | .extension => "newtype struct"

/-- Why bytes cannot be read. -/
inductive Fault where
  /-- The input ends where a value should begin. -/
  | noValue
  /-- The input ends within a number or a length. -/
  | shortNumber
  /-- The input ends within the bytes of a text, of binary data or of an extension. -/
  | shortContent
  /-- A value begins in a way that is not allowed here. -/
  | wrongMarker (marker : Marker)
  /-- Too many containers are inside each other. -/
  | tooDeep
  /-- Only `expected` items of an array or entries of a map can be used. -/
  | wrongCount (expected : Nat)
  | notUtf8 (fault : Text.Utf8Fault)
  /-- A value is of the wrong type. -/
  | wrongType (found : Found) (expected : String)
  /-- A value is of a right type and still cannot be used. -/
  | wrongValue (found : Found) (expected : String)
  /-- There are not enough items for a record. -/
  | tooShort (count : Nat) (expected : String)
  | missingField (name : String)
  | repeatedField (name : String)
  /-- A name is none of the listed alternatives. -/
  | unknownAlternative (name : String) (names : List String)
  deriving DecidableEq, Inhabited

/-- A name between grave accents. -/
def marked (name : String) : String := "`" ++ name ++ "`"

/-- A list of names to choose from. -/
def choiceOf : (names : List String) → String
  | [] => "there are no variants"
  | [name] => "expected " ++ marked name
  | [first, second] => "expected " ++ marked first ++ " or " ++ marked second
  | names => "expected one of " ++ ", ".intercalate (names.map marked)

/-- How a fault is reported. -/
def Fault.message : Fault → String
  | .noValue => "IO error while reading marker: failed to fill whole buffer"
  | .shortNumber => "IO error while reading data: failed to fill whole buffer"
  | .shortContent => "IO error while reading data: unexpected end of file"
  | .wrongMarker marker => "wrong msgpack marker " ++ marker.name
  | .tooDeep => "depth limit exceeded"
  | .wrongCount expected => s!"array had incorrect length, expected {expected}"
  | .notUtf8 fault => "string found to be invalid utf8: " ++ fault.message
  | .wrongType found expected => s!"invalid type: {found.description}, expected {expected}"
  | .wrongValue found expected => s!"invalid value: {found.description}, expected {expected}"
  | .tooShort count expected => s!"invalid length {count}, expected {expected}"
  | .missingField name => "missing field " ++ marked name
  | .repeatedField name => "duplicate field " ++ marked name
  | .unknownAlternative name names => "unknown variant " ++ marked name ++ ", " ++ choiceOf names

end SentenceCards.MessagePack
