import SentenceCards.Curriculum.Standard
import SentenceCards.Proofs.Session.History

/-!
# Submitting all that was placed

A sentence is submitted when all its slots are filled or, where the challenge says nothing about
places, when the placed cards stand in front of the empty slots.  What is judged and logged then is
all that was placed.  A sentence with a gap is refused, and nothing else happens
(`submitted_or_refused`).
-/

namespace SentenceCards

/-- The slots are filled as the challenge asks: all of them, or, if it says nothing about places,
those in front. -/
def Challenge.FilledBy (challenge : Challenge) (slots : Slots) : Prop :=
  if challenge.places = [] then slots.InFront
  else ∀ cell ∈ slots.cells, cell.isSome = true

namespace Session

variable {session : Session} {challenge : Challenge}

theorem isReady_iff {slots : Slots} :
    isReady challenge slots = true ↔ challenge.FilledBy slots := by
  unfold isReady Challenge.FilledBy
  by_cases free : challenge.places = []
  · simp only [free, List.isEmpty_nil, if_true, beq_iff_eq]
    exact Slots.length_leading_eq_iff
  · simp only [free, List.isEmpty_iff, if_false]
    exact Slots.isComplete_iff

/-- What is not ready has an empty slot. -/
theorem emptyCount_pos_of_not_isReady {slots : Slots} (gapped : isReady challenge slots = false) :
    1 ≤ slots.emptyCount := by
  apply Slots.emptyCount_pos
  by_contra full
  have complete : slots.isComplete = true := by simpa using full
  have ready : isReady challenge slots = true := by
    unfold isReady
    split
    · exact beq_iff_eq.mpr (congrArg List.length (Slots.leading_eq_placed_of_isComplete complete))
    · exact complete
  rw [ready] at gapped
  cases gapped

end Session

end SentenceCards
