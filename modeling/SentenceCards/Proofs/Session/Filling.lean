import SentenceCards.Proofs.Dealing.Hand
import SentenceCards.Proofs.Session.Laying

/-!
# Filling the slots of a challenge

A hand that has been dealt never lacks a card with an id that its challenge requires, and every
card with such an id is the required card itself.  So the required cards can be laid into the slots,
and in the end they stand there in order (`performAll_fill`).
-/

open scoped List

namespace SentenceCards

namespace Catalog

theorem id_cardOrStandIn (catalog : Catalog) (id : String) :
    (catalog.cardOrStandIn id).id = id := by
  unfold cardOrStandIn
  cases found : catalog.word? id with
  | none => rfl
  | some word => exact (word?_eq_some_iff.mp found).2

theorem map_id_cardOrStandIn (catalog : Catalog) (ids : List String) :
    (ids.map catalog.cardOrStandIn).map Card.id = ids := by
  simp [Function.comp_def, id_cardOrStandIn]

end Catalog

namespace Session

/-- Whatever is placed is a card that the active challenge requires in this slot. -/
def Step.PlacesRequired (step : Step) : Prop :=
  ∀ handIndex slot, step.operation = .place handIndex slot →
    ∃ challenge card, step.before.challenge? = some challenge ∧
      step.before.hand[handIndex]? = some card ∧ challenge.required[slot]? = some card.id

/-- The first slots hold the cards with the ids `placed` and the others are empty.  The hand holds
the cards with the ids `missing`, and beside them only cards with other ids. -/
structure Filling (session : Session) (challenge : Challenge) (placed missing : List String) :
    Prop where
  active : session.challenge? = some challenge
  required : challenge.required = placed ++ missing
  cells : session.slots.cells =
    (placed.map session.catalog.cardOrStandIn).map some ++ List.replicate missing.length none
  hand : ∃ extra, session.hand ~ missing.map session.catalog.cardOrStandIn ++ extra ∧
    ∀ card ∈ extra, card.id ∉ missing

/-- The required cards stand in the slots, and the hand is what is left. -/
def filled (session : Session) (challenge : Challenge) (hand : List Card) : Session :=
  { session with
    hand := hand
    slots := ⟨(Dealing.requiredCards session.catalog challenge).map some⟩ }

namespace Filling

variable {session : Session} {challenge : Challenge} {placed missing : List String}

theorem of_enter {index : Nat} (listed : session.challenges[index]? = some challenge)
    (slots : challenge.slotCount = challenge.required.length) :
    Filling (session.enter index challenge) challenge [] challenge.required where
  active := listed
  required := rfl
  cells := congrArg (List.replicate · none) slots
  hand := Dealing.deal_perm session.catalog challenge session.decoys session.generator

theorem laying (filling : Filling session challenge placed missing) :
    Laying session challenge 0 (placed.map session.catalog.cardOrStandIn)
      (missing.map session.catalog.cardOrStandIn) where
  active := filling.active
  cells := by simpa using filling.cells
  hand := by
    rw [Catalog.map_id_cardOrStandIn]
    exact filling.hand
  known := by
    -- The id decides which card is required.
    simp only [List.forall_mem_map, Catalog.id_cardOrStandIn]
    rintro id - other - rfl
    rfl

theorem requiredCards_eq (filling : Filling session challenge placed missing) :
    placed.map session.catalog.cardOrStandIn ++ missing.map session.catalog.cardOrStandIn =
      Dealing.requiredCards session.catalog challenge := by
  rw [← List.map_append, ← filling.required, Dealing.requiredCards]

end Filling

section Fill

variable {session : Session} {challenge : Challenge} {placed missing : List String}

/-- However the player picks, all placements succeed, and the required cards stand in the
slots. -/
theorem performAll_fill (player : Player) (filling : Filling session challenge placed missing) :
    ∃ hand, session.performAll (player.fill session placed.length missing) =
      (List.replicate missing.length (.ok .done), session.filled challenge hand) := by
  obtain ⟨hand, laid⟩ := filling.laying.performAll_fill player
  rw [Catalog.map_id_cardOrStandIn, List.length_map, List.length_map,
    filling.requiredCards_eq] at laid
  refine ⟨hand, laid.trans ?_⟩
  simp [Session.laid, filled]

theorem placesRequired_of_mem_steps_fill (player : Player)
    (filling : Filling session challenge placed missing) :
    ∀ step ∈ session.steps (player.fill session placed.length missing), step.PlacesRequired := by
  have laid := filling.laying.places_of_mem_steps_fill player
  rw [Catalog.map_id_cardOrStandIn, List.length_map, filling.requiredCards_eq] at laid
  intro step member handIndex slot same
  obtain ⟨active, places⟩ := laid step member
  obtain ⟨card, held, listed⟩ := places handIndex slot same
  rw [Dealing.requiredCards, List.getElem?_map, Option.map_eq_some_iff] at listed
  obtain ⟨id, required, rfl⟩ := listed
  refine ⟨challenge, _, active, held, ?_⟩
  rw [required, Catalog.id_cardOrStandIn]

end Fill

end Session

end SentenceCards
