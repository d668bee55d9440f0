/-!
# JSON values
-/

namespace SentenceCards

/-- A JSON value.  The members of an object keep their order. -/
inductive Json where
  | null
  | bool (value : Bool)
  /-- A number written without fraction and exponent. -/
  | integer (value : Int)
  /-- A number written in another way, as it is written. -/
  | decimal (written : String)
  | string (text : String)
  | array (items : List Json)
  | object (members : List (String × Json))
  deriving Inhabited

namespace Json

/-- A natural number. -/
def nat (n : Nat) : Json := .integer n

/-- The value, or null without one. -/
def optional {α : Type} (write : α → Json) : Option α → Json
  | some value => write value
  | none => .null

/-- An optional string. -/
def string? : Option String → Json := optional .string

/-- A list of strings. -/
def strings (texts : List String) : Json := .array (texts.map .string)

/-- The value of the last member with the key. -/
def member? (key : String) : Json → Option Json
  | .object members => members.reverse.lookup key
  | _ => none

end Json

end SentenceCards
