import SentenceCards.Bytes

/-!
# MessagePack values

The values that are written.
-/

namespace SentenceCards.MessagePack

/-- A MessagePack value that can be written. -/
inductive Value where
  | bool (value : Bool)
  | natural (n : Nat)
  | text (text : String)
  | array (items : List Value)
  /-- A map from field names to values, in this order. -/
  | record (fields : List (String × Value))
  deriving Inhabited

end SentenceCards.MessagePack
