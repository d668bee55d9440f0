import SentenceCards.Session.Entering

/-!
# Building a sentence

Cards move between the hand and the slots, one at a time or all together.  A card that
is taken back goes to the end of the hand.
-/

namespace SentenceCards.Session

/-- Puts a card of the hand into a slot. -/
def place (handIndex slot : Nat) : Action Unit := do
  let _ ← active
  match (← get).hand[handIndex]? with
  | none => throw (Cause.noHandCard handIndex).failure
  | some card =>
      let slots ← ofExcept ((← get).slots.place slot card)
      modify fun session => { session with slots := slots }
      modify fun session => { session with hand := session.hand.eraseIdx handIndex }

/-- Takes the card of a slot back into the hand. -/
def take (slot : Nat) : Action Card := do
  let (card, slots) ← ofExcept ((← get).slots.take slot)
  modify fun session => { session with slots := slots }
  modify fun session => { session with hand := session.hand ++ [card] }
  return card

/-- Takes all cards back into the hand, in the order of the slots. -/
def reset (session : Session) : Session :=
  let (cards, slots) := session.slots.clear
  { session with hand := session.hand ++ cards, slots := slots }

/-- The placed cards in the order of the slots. -/
def built (session : Session) : List Card := session.slots.placed

/-- What to do next with the cards before the first empty slot.  If the pattern has nothing to
say, the first hint of the challenge is given. -/
def hint : Action (Option String) := do
  let challenge ← active
  let session ← get
  let (found, recorder) := session.recorder.hint challenge.pattern session.slots.leading
  modify fun session => { session with recorder := recorder }
  return found.or challenge.hints.head?

end SentenceCards.Session
