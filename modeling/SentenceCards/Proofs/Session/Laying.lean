import SentenceCards.Proofs.Session.History

/-!
# Laying cards into the slots

A player puts a card with the first id into the first slot, one with the second id into the second,
and so on.  As long as the hand has all the cards that are wanted, and no others with their ids,
every placement succeeds, and in the end the slots hold the wanted cards in order
(`Laying.performAll_fill`).
-/

open scoped List

namespace SentenceCards.Session

/-- A way to choose among the cards of the hand: where a card has the wanted id, a card with this
id is picked. -/
structure Player where
  pick : Session → String → Nat
  finds : ∀ (session : Session), ∀ card ∈ session.hand,
    ∃ held, session.hand[pick session card.id]? = some held ∧ held.id = card.id

namespace Player

def first : Player where
  pick session id := session.hand.findIdx (·.id == id)
  finds := by
    intro session card held
    have inside : session.hand.findIdx (·.id == card.id) < session.hand.length :=
      List.findIdx_lt_length_of_exists ⟨card, held, beq_self_eq_true card.id⟩
    have same := List.findIdx_getElem (w := inside)
    exact ⟨_, List.getElem?_eq_getElem inside, beq_iff_eq.mp same⟩

/-- Fills the slots from `slot` on with cards that have the ids. -/
def fill (player : Player) (session : Session) (slot : Nat) : List String → List Operation
  | [] => []
  | id :: rest =>
      let operation := Operation.place (player.pick session id) slot
      operation :: player.fill (session.perform operation).2 (slot + 1) rest

end Player

/-- Whatever is placed is the card that the list has at the position of the slot. -/
def Step.Places (cards : List Card) (step : Step) : Prop :=
  ∀ handIndex slot, step.operation = .place handIndex slot →
    ∃ card, step.before.hand[handIndex]? = some card ∧ cards[slot]? = some card

/-- The cards stand in the first slots, the spare ones are empty, and the hand is what is left. -/
def laid (session : Session) (cards : List Card) (spare : Nat) (hand : List Card) : Session :=
  { session with hand := hand, slots := ⟨cards.map some ++ List.replicate spare none⟩ }

/-- The first slots hold the cards `placed`.  After them there is room for the cards `missing`,
which the hand holds, and the spare slots.  A card of the hand with the id of a missing card is
this card. -/
structure Laying (session : Session) (challenge : Challenge) (spare : Nat)
    (placed missing : List Card) : Prop where
  active : session.challenge? = some challenge
  cells : session.slots.cells =
    placed.map some ++ List.replicate (missing.length + spare) none
  hand : ∃ extra, session.hand ~ missing ++ extra ∧
    ∀ card ∈ extra, card.id ∉ missing.map Card.id
  known : ∀ card ∈ missing, ∀ other ∈ missing, card.id = other.id → card = other

namespace Laying

variable {session : Session} {challenge : Challenge} {spare : Nat} {placed missing : List Card}
  {card : Card}

/-- A card with the next id is the next card, and the player picks it. -/
theorem picked (laying : Laying session challenge spare placed (card :: missing))
    (player : Player) : session.hand[player.pick session card.id]? = some card := by
  obtain ⟨extra, dealt, others⟩ := laying.hand
  have available : card ∈ session.hand := by
    rw [dealt.mem_iff]
    simp
  obtain ⟨held, found, same⟩ := player.finds session card available
  rw [found]
  have among := dealt.mem_iff.mp (List.mem_of_getElem? found)
  rcases List.mem_append.mp among with needed | other
  · exact congrArg some (laying.known held needed card List.mem_cons_self same)
  · have inside : held.id ∈ (card :: missing).map Card.id := by simp [same]
    exact absurd inside (others held other)

theorem cells_cons (laying : Laying session challenge spare placed (card :: missing)) :
    session.slots.cells =
      placed.map some ++ none :: List.replicate (missing.length + spare) none := by
  rw [laying.cells, List.length_cons, Nat.add_right_comm, List.replicate_succ]

theorem nextFree (laying : Laying session challenge spare placed (card :: missing)) :
    session.slots.cells[placed.length]? = some none := by
  rw [laying.cells_cons]
  simp

theorem place (laying : Laying session challenge spare placed (card :: missing))
    (player : Player) :
    ∃ later,
      session.perform (.place (player.pick session card.id) placed.length) = (.ok .done, later) ∧
      Laying later challenge spare (placed ++ [card]) missing ∧
      ∀ cards hand, later.laid cards spare hand = session.laid cards spare hand := by
  let handIndex := player.pick session card.id
  have held : session.hand[handIndex]? = some card := laying.picked player
  have done := Transition.placed laying.active held laying.nextFree
  refine ⟨_, done.perform_eq, ?_, fun _ _ => rfl⟩
  constructor
  · exact laying.active
  · show session.slots.cells.set placed.length (some card) = _
    rw [laying.cells_cons]
    simp
  · obtain ⟨extra, dealt, others⟩ := laying.hand
    obtain ⟨inside, same⟩ := List.getElem?_eq_some_iff.mp held
    refine ⟨extra, ?_, ?_⟩
    · have removed : card :: session.hand.eraseIdx handIndex ~ card :: (missing ++ extra) := by
        rw [← same]
        exact (List.getElem_cons_eraseIdx_perm inside).trans (by rw [same]; exact dealt)
      exact removed.cons_inv
    · intro other inExtra wanted
      exact others other inExtra (List.mem_cons_of_mem card.id wanted)
  · intro first inMissing second inMissingToo
    exact laying.known first (List.mem_cons_of_mem card inMissing) second
      (List.mem_cons_of_mem card inMissingToo)

/-- However the player picks, all placements succeed, and the cards stand in the slots. -/
theorem performAll_fill (laying : Laying session challenge spare placed missing)
    (player : Player) :
    ∃ hand, session.performAll (player.fill session placed.length (missing.map Card.id)) =
      (List.replicate missing.length (.ok .done),
        session.laid (placed ++ missing) spare hand) := by
  induction missing generalizing session placed with
  | nil =>
      refine ⟨session.hand, ?_⟩
      have cells : session.slots.cells =
          (placed ++ []).map some ++ List.replicate spare none := by
        simpa using laying.cells
      rw [laid, ← cells]
      rfl
  | cons card missing ih =>
      obtain ⟨later, answered, further, same⟩ := laying.place player
      obtain ⟨hand, rest⟩ := ih further
      refine ⟨hand, ?_⟩
      rw [List.length_append, List.length_singleton, List.append_assoc, List.singleton_append]
        at rest
      simp only [List.map_cons, Player.fill, performAll, answered]
      rw [rest, same]
      rfl

theorem places_of_mem_steps_fill (laying : Laying session challenge spare placed missing)
    (player : Player) :
    ∀ step ∈ session.steps (player.fill session placed.length (missing.map Card.id)),
      step.before.challenge? = some challenge ∧ step.Places (placed ++ missing) := by
  induction missing generalizing session placed with
  | nil =>
      intro step member
      simp [Player.fill, steps] at member
  | cons card missing ih =>
      obtain ⟨later, answered, further, _⟩ := laying.place player
      have rest := ih further
      rw [List.length_append, List.length_singleton, List.append_assoc, List.singleton_append]
        at rest
      intro step member
      simp only [List.map_cons, Player.fill, steps, answered, List.mem_cons] at member
      rcases member with rfl | member
      · refine ⟨laying.active, ?_⟩
        intro handIndex slot same
        obtain ⟨rfl, rfl⟩ := Operation.place.inj same
        exact ⟨card, laying.picked player, by simp⟩
      · exact rest step member

end Laying

end SentenceCards.Session
