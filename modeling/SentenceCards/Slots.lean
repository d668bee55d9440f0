import SentenceCards.Card
import SentenceCards.Failure

/-!
# Sentence slots

A sentence is built in a row of slots, each empty or holding one card.  The number of
slots never changes.
-/

namespace SentenceCards

/-- A row of slots. -/
structure Slots where
  cells : List (Option Card)
  deriving DecidableEq, Inhabited

namespace Slots

/-- A row of `count` empty slots. -/
def empty (count : Nat) : Slots := ⟨List.replicate count none⟩

/-- The number of slots. -/
def size (slots : Slots) : Nat := slots.cells.length

/-- The card in a slot, if there is such a slot and it holds one. -/
def get? (slots : Slots) (index : Nat) : Option Card := (slots.cells[index]?).join

/-- Puts a card into an empty slot. -/
def place (slots : Slots) (index : Nat) (card : Card) : Except Failure Slots :=
  match slots.cells[index]? with
  | none => .error (Cause.slotOutOfRange index slots.size).failure
  | some (some _) => .error (Cause.slotOccupied index).failure
  | some none => .ok ⟨slots.cells.set index (some card)⟩

/-- Removes the card from a slot. -/
def take (slots : Slots) (index : Nat) : Except Failure (Card × Slots) :=
  match slots.cells[index]? with
  | none => .error (Cause.slotOutOfRange index slots.size).failure
  | some none => .error (Cause.slotEmpty index).failure
  | some (some card) => .ok (card, ⟨slots.cells.set index none⟩)

/-- The cards in the slots, in the order of the slots. -/
def placed (slots : Slots) : List Card := slots.cells.filterMap id

/-- The cards in the slots, and the slots without them. -/
def clear (slots : Slots) : List Card × Slots := (slots.placed, empty slots.size)

/-- The number of slots without a card. -/
def emptyCount (slots : Slots) : Nat := slots.cells.countP Option.isNone

/-- Whether every slot holds a card. -/
def isComplete (slots : Slots) : Bool := slots.cells.all Option.isSome

/-- The cards of the slots before the first empty one. -/
def leading (slots : Slots) : List Card := (slots.cells.takeWhile Option.isSome).filterMap id

/-- All cards in order, if every slot holds one. -/
def complete? (slots : Slots) : Option (List Card) := slots.cells.mapM id

end Slots

end SentenceCards
