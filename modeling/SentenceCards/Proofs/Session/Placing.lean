import Mathlib.Data.List.Nodup
import SentenceCards.Curriculum.Standard
import SentenceCards.Proofs.Session.History

/-!
# The order of placing makes no difference

Different cards of a hand are put into different empty slots, one after the other.  Each placement
moves the cards behind it one place forward in the hand, so another order names other places.  All
the same it succeeds and ends in the same session (`placed_in_any_order`).  A card that is placed
and taken back goes to the end of the hand, and nothing else has changed.
-/

open scoped List

namespace SentenceCards

/-- A card, known by its place in a hand, and the slot that it is to be put into. -/
structure Move where
  card : Nat
  slot : Nat
  deriving DecidableEq

namespace Move

/-- The placements of the moves in turn.  Of the cards that were in the hand at the places `held`
the hand consists by now, so this is where each card is found. -/
def placements (held : List Nat) : List Move → List Operation
  | [] => []
  | move :: rest =>
      .place (held.idxOf move.card) move.slot :: placements (held.erase move.card) rest

/-- The slots with the cards of the hand that are moved into them. -/
def fill (hand : List Card) (cells : List (Option Card)) (moves : List Move) :
    List (Option Card) :=
  moves.foldl (fun cells move => cells.set move.slot hand[move.card]?) cells

section Fill

variable {hand : List Card} {cells : List (Option Card)} {moves order : List Move}

theorem length_fill (hand : List Card) (cells : List (Option Card)) (moves : List Move) :
    (fill hand cells moves).length = cells.length := by
  induction moves generalizing cells with
  | nil => rfl
  | cons move rest ih => exact (ih _).trans List.length_set

theorem getElem?_fill_of_not_mem {slot : Nat} (apart : slot ∉ moves.map Move.slot) :
    (fill hand cells moves)[slot]? = cells[slot]? := by
  induction moves generalizing cells with
  | nil => rfl
  | cons move rest ih =>
      obtain ⟨other, further⟩ := not_or.mp (List.mem_cons.not.mp apart)
      exact (ih further).trans (List.getElem?_set_ne (Ne.symm other))

theorem getElem?_fill_of_mem {move : Move} (distinct : (moves.map Move.slot).Nodup)
    (member : move ∈ moves) (inside : move.slot < cells.length) :
    (fill hand cells moves)[move.slot]? = some hand[move.card]? := by
  induction moves generalizing cells with
  | nil => cases member
  | cons first rest ih =>
      obtain ⟨fresh, distinct⟩ := List.nodup_cons.mp distinct
      rcases List.mem_cons.mp member with rfl | later
      · exact (getElem?_fill_of_not_mem fresh).trans (List.getElem?_set_self inside)
      · exact ih distinct later (by rwa [List.length_set])

/-- Moves into different slots do not get into each other's way. -/
theorem fill_perm (distinct : (moves.map Move.slot).Nodup) (reordered : order ~ moves) :
    fill hand cells order = fill hand cells moves := by
  refine reordered.foldl_eq' ?_ cells
  intro first member second memberToo cells
  by_cases same : first.slot = second.slot
  · obtain rfl : first = second :=
      List.inj_on_of_nodup_map distinct (reordered.subset member) (reordered.subset memberToo) same
    rfl
  · exact List.set_comm _ _ same

end Fill

end Move

namespace Session

/-- The hand consists of the cards that were in `hand` at the places `held`, and the moves are for
different ones of them and for different empty slots. -/
structure Placing (session : Session) (hand : List Card) (held : List Nat) (moves : List Move) :
    Prop where
  active : ∃ challenge, session.challenge? = some challenge
  now : session.hand.map some = held.map (hand[·]?)
  places : held.Nodup
  cards : ∀ move ∈ moves, move.card ∈ held
  free : ∀ move ∈ moves, session.slots.cells[move.slot]? = some none
  differentCards : (moves.map Move.card).Nodup
  differentSlots : (moves.map Move.slot).Nodup

namespace Placing

variable {session : Session} {hand : List Card} {held : List Nat} {move : Move}
  {moves : List Move}

theorem hand_eq (placing : Placing session hand held moves) :
    session.hand = held.filterMap (hand[·]?) := by
  have same := congrArg (List.filterMap id) placing.now
  simpa [List.filterMap_map, Function.comp_def] using same

/-- The card of the next move is found where it is now. -/
theorem picked (placing : Placing session hand held (move :: moves)) :
    ∃ card, session.hand[held.idxOf move.card]? = some card ∧ hand[move.card]? = some card := by
  have member : move.card ∈ held := placing.cards move List.mem_cons_self
  have found := congrArg (·[held.idxOf move.card]?) placing.now
  simp only [List.getElem?_map, List.getElem?_idxOf member, Option.map_some] at found
  obtain ⟨card, here, same⟩ := Option.map_eq_some_iff.mp found
  exact ⟨card, here, same.symm⟩

/-- A placement succeeds, and the other moves are still to be made with what is left. -/
theorem place (placing : Placing session hand held (move :: moves)) :
    ∃ later, session.perform (.place (held.idxOf move.card) move.slot) = (.ok .done, later) ∧
      Placing later hand (held.erase move.card) moves ∧
      later.slots.cells = session.slots.cells.set move.slot hand[move.card]? ∧
      ∀ hand slots, { later with hand := hand, slots := slots } =
        { session with hand := hand, slots := slots } := by
  obtain ⟨challenge, active⟩ := placing.active
  obtain ⟨card, here, same⟩ := placing.picked
  obtain ⟨otherCard, differentCards⟩ := List.nodup_cons.mp placing.differentCards
  obtain ⟨otherSlot, differentSlots⟩ := List.nodup_cons.mp placing.differentSlots
  have done := Transition.placed active here (placing.free move List.mem_cons_self)
  refine ⟨_, done.perform_eq, ?_, by rw [same], fun _ _ => rfl⟩
  constructor
  case active => exact ⟨challenge, active⟩
  case now =>
    -- The card leaves the hand at the place at which its number leaves `held`.
    show (session.hand.eraseIdx _).map some = _
    rw [← List.eraseIdx_map, placing.now, List.eraseIdx_map, List.eraseIdx_idxOf_eq_erase]
  case places => exact placing.places.erase _
  case cards =>
    intro other member
    have different : other.card ≠ move.card := by
      rintro equal
      exact otherCard (equal ▸ List.mem_map_of_mem member)
    exact (List.mem_erase_of_ne different).mpr
      (placing.cards other (List.mem_cons_of_mem move member))
  case free =>
    intro other member
    have different : move.slot ≠ other.slot := by
      rintro equal
      exact otherSlot (equal ▸ List.mem_map_of_mem member)
    exact (List.getElem?_set_ne different).trans
      (placing.free other (List.mem_cons_of_mem move member))
  case differentCards => exact differentCards
  case differentSlots => exact differentSlots

theorem filter_erase (places : held.Nodup) :
    (held.erase move.card).filter (· ∉ moves.map Move.card) =
      held.filter (· ∉ (move :: moves).map Move.card) := by
  rw [places.erase_eq_filter, List.filter_filter]
  refine List.filter_congr fun place _ => ?_
  by_cases same : place = move.card
  · simp [same]
  · simp [same]

/-- All placements succeed.  The slots are filled, and the other cards are left in the hand. -/
theorem performAll_placements (placing : Placing session hand held moves) :
    session.performAll (Move.placements held moves) =
      (List.replicate moves.length (.ok .done),
        { session with
          hand := (held.filter (· ∉ moves.map Move.card)).filterMap (hand[·]?)
          slots := ⟨Move.fill hand session.slots.cells moves⟩ }) := by
  induction moves generalizing session held with
  | nil =>
      have all : held.filter (· ∉ ([] : List Move).map Move.card) = held := by simp
      rw [all, ← placing.hand_eq]
      rfl
  | cons move moves ih =>
      obtain ⟨later, answered, further, filled, same⟩ := placing.place
      simp only [Move.placements, performAll, answered]
      rw [ih further, filter_erase placing.places, filled, same]
      rfl

end Placing

theorem placing_of_held {session : Session} {moves : List Move}
    (active : ∃ challenge, session.challenge? = some challenge)
    (held : ∀ move ∈ moves, move.card < session.hand.length)
    (free : ∀ move ∈ moves, session.slots.cells[move.slot]? = some none)
    (differentCards : (moves.map Move.card).Nodup) (differentSlots : (moves.map Move.slot).Nodup) :
    Placing session session.hand (List.range session.hand.length) moves where
  active := active
  now := by
    apply List.ext_getElem?
    intro place
    by_cases inside : place < session.hand.length
    · simp [inside]
    · simp [inside]
  places := List.nodup_range
  cards := fun move member => List.mem_range.mpr (held move member)
  free := free
  differentCards := differentCards
  differentSlots := differentSlots

/-- A card that is placed and taken back has left its place in the hand for the end of it. -/
theorem take_of_place {session later : Session} {handIndex slot : Nat} {answer : Answer}
    (placed : session.perform (.place handIndex slot) = (.ok answer, later)) :
    ∃ card, session.hand[handIndex]? = some card ∧
      later.perform (.take slot) =
        (.ok (.card card),
          { session with hand := session.hand.eraseIdx handIndex ++ [card] }) := by
  have transition := perform_transition session (.place handIndex slot)
  rw [placed] at transition
  cases transition with
  | @placed _ _ _ card _ held free =>
      obtain ⟨inside, content⟩ := List.getElem?_eq_some_iff.mp free
      refine ⟨card, held, ?_⟩
      rw [(Transition.taken (List.getElem?_set_self inside)).perform_eq]
      have emptied : (session.slots.cells.set slot (some card)).set slot none =
          session.slots.cells := by
        rw [List.set_set, ← content, List.set_getElem_self]
      simp only [emptied]

/-- Different cards can be put into different empty slots in any order: every placement succeeds,
each card ends in its slot, and the other cards stay in the hand in their order.  A card that is
placed and taken back is the last one of the hand. -/
theorem placed_in_any_order (session : Session) :
    (∀ moves : List Move,
      (∃ challenge, session.challenge? = some challenge) →
      (∀ move ∈ moves, move.card < session.hand.length) →
      (∀ move ∈ moves, session.slots.cells[move.slot]? = some none) →
      (moves.map Move.card).Nodup → (moves.map Move.slot).Nodup →
      ∃ hand cells,
        (∀ order, order ~ moves →
          session.performAll (Move.placements (List.range session.hand.length) order) =
            (List.replicate moves.length (.ok .done),
              { session with hand := hand, slots := ⟨cells⟩ })) ∧
          hand = ((List.range session.hand.length).filter (· ∉ moves.map Move.card)).filterMap
            (session.hand[·]?) ∧
          cells.length = session.slots.size ∧
          (∀ move ∈ moves, cells[move.slot]? = some session.hand[move.card]?) ∧
          ∀ slot, slot ∉ moves.map Move.slot → cells[slot]? = session.slots.cells[slot]?) ∧
      ∀ (handIndex slot : Nat) (answer : Answer) (later : Session),
        session.perform (.place handIndex slot) = (.ok answer, later) →
        ∃ card, session.hand[handIndex]? = some card ∧
          later.perform (.take slot) =
            (.ok (.card card),
              { session with hand := session.hand.eraseIdx handIndex ++ [card] }) := by
  constructor
  · intro moves active held free differentCards differentSlots
    refine ⟨_, Move.fill session.hand session.slots.cells moves, ?_, rfl,
      Move.length_fill _ _ _, ?_, fun slot apart => Move.getElem?_fill_of_not_mem apart⟩
    · intro order reordered
      have placing : Placing session session.hand (List.range session.hand.length) order :=
        placing_of_held active (fun move member => held move (reordered.subset member))
          (fun move member => free move (reordered.subset member))
          ((reordered.map Move.card).nodup_iff.mpr differentCards)
          ((reordered.map Move.slot).nodup_iff.mpr differentSlots)
      rw [placing.performAll_placements, reordered.length_eq,
        Move.fill_perm differentSlots reordered]
      simp only [(reordered.map Move.card).mem_iff]
    · intro move member
      obtain ⟨inside, _⟩ := List.getElem?_eq_some_iff.mp (free move member)
      exact Move.getElem?_fill_of_mem differentSlots member inside
  · intro handIndex slot answer later placed
    exact take_of_place placed

/-- `He` and `whare` in either order.  When `He` has gone, `whare` is one place further in front. -/
theorem placed_in_any_order_heWhare :
    let session := (start .standard .standard .usual).startFreeBuild .he
    let moves : List Move := [⟨1, 0⟩, ⟨3, 1⟩]
    ((∃ challenge, session.challenge? = some challenge) ∧
      (∀ move ∈ moves, move.card < session.hand.length) ∧
      (∀ move ∈ moves, session.slots.cells[move.slot]? = some none) ∧
      (moves.map Move.card).Nodup ∧ (moves.map Move.slot).Nodup ∧
      ∃ later, session.performAll [.place 1 0, .place 2 1] = ([.ok .done, .ok .done], later) ∧
        session.performAll [.place 3 1, .place 1 0] = ([.ok .done, .ok .done], later) ∧
        later.slots.cells[0]? = some session.hand[1]? ∧
        later.slots.cells[1]? = some session.hand[3]?) ∧
      ∃ later card, session.perform (.place 1 0) = (.ok .done, later) ∧
        session.hand[1]? = some card ∧
        later.perform (.take 0) =
          (.ok (.card card), { session with hand := session.hand.eraseIdx 1 ++ [card] }) := by
  intro session moves
  obtain ⟨anyOrder, takenBack⟩ := placed_in_any_order session
  have active : session.challenge? = some (.freeBuild .he) := rfl
  have held : ∀ move ∈ moves, move.card < session.hand.length := by decide +kernel
  have free : ∀ move ∈ moves, session.slots.cells[move.slot]? = some none := by decide +kernel
  have differentCards : (moves.map Move.card).Nodup := by decide
  have differentSlots : (moves.map Move.slot).Nodup := by decide
  have forward : Move.placements (List.range session.hand.length) moves =
      [.place 1 0, .place 2 1] := by decide +kernel
  have backward : Move.placements (List.range session.hand.length) moves.reverse =
      [.place 3 1, .place 1 0] := by decide +kernel
  constructor
  · obtain ⟨hand, cells, ends, _, _, filled, _⟩ :=
      anyOrder moves ⟨_, active⟩ held free differentCards differentSlots
    refine ⟨⟨_, active⟩, held, free, differentCards, differentSlots,
      { session with hand := hand, slots := ⟨cells⟩ }, ?_, ?_,
      filled ⟨1, 0⟩ (by decide), filled ⟨3, 1⟩ (by decide)⟩
    · have ended := ends moves (.refl _)
      rwa [forward] at ended
    · have ended := ends moves.reverse (List.reverse_perm _)
      rwa [backward] at ended
  · have here : 1 < session.hand.length := by decide +kernel
    have placed := (Transition.placed active (List.getElem?_eq_getElem here)
      (free ⟨1, 0⟩ (by decide))).perform_eq
    obtain ⟨card, found, taken⟩ := takenBack 1 0 _ _ placed
    exact ⟨_, card, placed, found, taken⟩

end Session

end SentenceCards
