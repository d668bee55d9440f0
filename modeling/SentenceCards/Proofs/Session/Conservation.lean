import SentenceCards.Proofs.Session.History

/-!
# Cards are conserved

From one dealing to the next the cards of the hand and of the slots are, all together, the cards
that were dealt, each as it was.  The slots are as many as the challenge asks for, and after the
first dealing there is always an active challenge.
-/

open scoped List

namespace SentenceCards

def Operation.movesCards : Operation → Bool
  | .place .. | .take _ | .reset => true
  | _ => false

namespace Session

/-- The hand that a step deals, when it enters a challenge. -/
def Step.dealt? (step : Step) : Option (List Card) :=
  match step.answer with
  | .ok (.challenge (some _)) => some step.after.hand
  | _ => none

/-- The hand that was dealt last, no cards if none was. -/
def lastDealt (steps : List Step) : List Card := (steps.filterMap Step.dealt?).getLast?.getD []

/-- The challenge was entered just now: its slots are empty. -/
structure Enters (later : Session) (challenge : Challenge) : Prop where
  active : later.challenge? = some challenge
  slots : later.slots = .empty challenge.slotCount

/-- The challenge goes on with the same cards and as many slots.  Only operations that move cards
change where the cards are. -/
structure KeepsCards (before : Session) (operation : Operation) (later : Session) : Prop where
  challenge : later.challenge? = before.challenge?
  size : later.slots.size = before.slots.size
  cards : (later.hand ++ later.slots.placed).Perm (before.hand ++ before.slots.placed)
  still : operation.movesCards = false → later.hand = before.hand ∧ later.slots = before.slots

theorem KeepsCards.of_eq {before later : Session} {operation : Operation}
    (challenge : later.challenge? = before.challenge?) (hand : later.hand = before.hand)
    (slots : later.slots = before.slots) : KeepsCards before operation later where
  challenge := challenge
  size := by rw [slots]
  cards := by rw [hand, slots]
  still := fun _ => ⟨hand, slots⟩

theorem keepsCards_place {session : Session} {handIndex slot : Nat} {card : Card}
    (held : session.hand[handIndex]? = some card)
    (free : session.slots.cells[slot]? = some none) :
    KeepsCards session (.place handIndex slot)
      { session with
        hand := session.hand.eraseIdx handIndex
        slots := ⟨session.slots.cells.set slot (some card)⟩ } where
  challenge := rfl
  size := by simp [Slots.size]
  cards := by
    obtain ⟨inside, same⟩ := List.getElem?_eq_some_iff.mp held
    have filled := Slots.placed_fill_perm free card
    have picked : (card :: session.hand.eraseIdx handIndex).Perm session.hand := by
      rw [← same]
      exact List.getElem_cons_eraseIdx_perm inside
    calc
      session.hand.eraseIdx handIndex ++ Slots.placed ⟨session.slots.cells.set slot (some card)⟩
          ~ session.hand.eraseIdx handIndex ++ card :: session.slots.placed :=
        filled.append_left _
      _ ~ card :: session.hand.eraseIdx handIndex ++ session.slots.placed := List.perm_middle
      _ ~ session.hand ++ session.slots.placed := picked.append_right _
  still := fun fixed => absurd fixed (by simp [Operation.movesCards])

theorem keepsCards_take {session : Session} {slot : Nat} {card : Card}
    (filled : session.slots.cells[slot]? = some (some card)) :
    KeepsCards session (.take slot)
      { session with
        hand := session.hand ++ [card]
        slots := ⟨session.slots.cells.set slot none⟩ } where
  challenge := rfl
  size := by simp [Slots.size]
  cards := by
    have vacated := Slots.placed_vacate_perm filled
    rw [List.append_assoc]
    exact (vacated.append_left session.hand).symm
  still := fun fixed => absurd fixed (by simp [Operation.movesCards])

theorem keepsCards_reset (session : Session) : KeepsCards session .reset session.reset where
  challenge := rfl
  size := Slots.size_empty _
  cards := by
    have empty : session.reset.slots.placed = [] := Slots.placed_empty _
    rw [empty, List.append_nil]
    rfl
  still := fun fixed => absurd fixed (by simp [Operation.movesCards])

theorem keepsCards_submit (session : Session) (challenge : Challenge) :
    KeepsCards session .submit (session.afterSubmission challenge) := by
  apply KeepsCards.of_eq
  · simp only [challenge?, challenges_afterSubmission, index_afterSubmission]
  · exact hand_afterSubmission session challenge
  · exact slots_afterSubmission session challenge

/-- An operation enters a challenge, and answers so, or it keeps the cards. -/
theorem Transition.enters_or_keepsCards {before later : Session} {operation : Operation}
    {answer : Except Failure Answer} (transition : Transition before operation answer later) :
    (∃ challenge, answer = .ok (.challenge (some challenge)) ∧ Enters later challenge) ∨
      ((∀ challenge, answer ≠ .ok (.challenge (some challenge))) ∧
        KeepsCards before operation later) := by
  cases transition with
  | @lessonStarted _ _ first => exact .inl ⟨first, rfl, rfl, rfl⟩
  | freeBuildStarted pattern => exact .inl ⟨.freeBuild pattern, rfl, rfl, rfl⟩
  | @advanced _ following _ further => exact .inl ⟨following, rfl, further, rfl⟩
  | placed _ held free => exact .inr ⟨by simp, keepsCards_place held free⟩
  | taken filled => exact .inr ⟨by simp, keepsCards_take filled⟩
  | cleared => exact .inr ⟨by simp, keepsCards_reset before⟩
  | @submitted challenge => exact .inr ⟨by simp, keepsCards_submit before challenge⟩
  | refused | unrecognized | said | hinted | atEnd | logSet =>
      exact .inr ⟨by simp, .of_eq rfl rfl rfl⟩

theorem Step.dealt?_eq_some {step : Step} {challenge : Challenge}
    (entered : step.answer = .ok (.challenge (some challenge))) :
    step.dealt? = some step.after.hand := by
  rw [Step.dealt?, entered]

theorem Step.dealt?_eq_none {step : Step}
    (other : ∀ challenge, step.answer ≠ .ok (.challenge (some challenge))) :
    step.dealt? = none := by
  unfold Step.dealt?
  split
  · exact absurd ‹_› (other _)
  · rfl

theorem Step.keepsCards_of_undealt {step : Step} (undealt : step.dealt? = none) :
    KeepsCards step.before step.operation step.after := by
  rcases (perform_transition step.before step.operation).enters_or_keepsCards with
    ⟨challenge, entered, _⟩ | ⟨_, keeps⟩
  · rw [Step.dealt?_eq_some entered] at undealt
    exact absurd undealt (by simp)
  · exact keeps

/-- What a run keeps: the dealt cards, the number of slots, and an active challenge. -/
structure Conserved (steps : List Step) (session : Session) : Prop where
  cards : session.hand ++ session.slots.placed ~ lastDealt steps
  size : session.slots.size = session.challenge?.elim 0 Challenge.slotCount
  active : (steps.any fun step => step.dealt?.isSome) = true → session.challenge?.isSome = true

namespace Conserved

theorem start (catalog : Catalog) (curriculum : Curriculum) (plan : SessionPlan) :
    Conserved [] (start catalog curriculum plan) where
  cards := .refl _
  size := rfl
  active := by simp

variable {earlier : List Step} {before later : Session} {operation : Operation}
  {answer : Except Failure Answer}

theorem further (transition : Transition before operation answer later)
    (conserved : Conserved earlier before) :
    Conserved (earlier ++ [⟨before, operation⟩]) later := by
  let step : Step := ⟨before, operation⟩
  have answered : step.answer = answer := Step.answer_eq transition
  have ended : step.after = later := Step.after_eq transition
  rcases transition.enters_or_keepsCards with ⟨challenge, entered, enters⟩ | ⟨other, keeps⟩
  · have dealt : step.dealt? = some later.hand := by
      rw [Step.dealt?_eq_some (answered.trans entered), ended]
    have none : later.slots.placed = [] := by rw [enters.slots, Slots.placed_empty]
    constructor
    · simp [lastDealt, dealt, step, none]
    · rw [enters.active, enters.slots, Slots.size_empty]
      rfl
    · intro _
      simp [enters.active]
  · have undealt : step.dealt? = none := Step.dealt?_eq_none (answered ▸ other)
    constructor
    · have same : lastDealt (earlier ++ [step]) = lastDealt earlier := by
        simp [lastDealt, undealt]
      rw [same]
      exact keeps.cards.trans conserved.cards
    · rw [keeps.size, keeps.challenge]
      exact conserved.size
    · intro started
      rw [keeps.challenge]
      exact conserved.active (by simpa [undealt, step] using started)

theorem of_run (catalog : Catalog) (curriculum : Curriculum) (plan : SessionPlan)
    (operations : List Operation) :
    Conserved ((Session.start catalog curriculum plan).steps operations)
      ((Session.start catalog curriculum plan).afterAll operations) :=
  run_induction Conserved _ (start catalog curriculum plan) further operations

end Conserved

/-- From one dealing to the next the same cards are in the hand and in the slots, the slots are as
many as the challenge has places, or as the longest sentences of its pattern have cards, and only
`place`, `take` and `reset` move cards.  Once something was started a challenge is active. -/
theorem cards_conserved (catalog : Catalog) (curriculum : Curriculum) (plan : SessionPlan)
    (operations : List Operation) :
    let steps := (start catalog curriculum plan).steps operations
    let session := (start catalog curriculum plan).afterAll operations
    session.hand ++ session.slots.placed ~ lastDealt steps ∧
      (∀ challenge, session.challenge? = some challenge →
        session.slots.size =
          if challenge.places = [] then challenge.pattern.longest else challenge.places.length) ∧
      (∀ step ∈ steps, step.dealt? = none →
        step.after.slots.size = step.before.slots.size ∧
          (step.operation.movesCards = false →
            step.after.hand = step.before.hand ∧ step.after.slots = step.before.slots)) ∧
      ((∃ step ∈ steps, step.dealt?.isSome = true) →
        session.index < session.challenges.length ∧
          ∃ challenge, session.challenge? = some challenge) := by
  intro steps session
  have conserved : Conserved steps session := Conserved.of_run catalog curriculum plan operations
  refine ⟨conserved.cards, ?_, ?_, ?_⟩
  · intro challenge active
    have size := conserved.size
    rw [active] at size
    simpa [Challenge.slotCount] using size
  · intro step _ undealt
    have keeps := step.keepsCards_of_undealt undealt
    exact ⟨keeps.size, keeps.still⟩
  · intro started
    have active := conserved.active (by simpa using started)
    obtain ⟨challenge, active⟩ := Option.isSome_iff_exists.mp active
    exact ⟨(List.getElem?_eq_some_iff.mp active).1, challenge, active⟩

end Session

end SentenceCards
