import SentenceCards.Curriculum.Standard
import SentenceCards.Proofs.Session.History

/-!
# Which hands are dealt

Cards are drawn when a challenge of a lesson is entered, and at no other time.  So the hands of a
run are those that one generator deals for the entered challenges in turn (`DealsInTurn.of_run`),
and two runs from one seed that enter the same challenges are dealt the same hands
(`same_hands_of_same_challenges`).
-/

namespace SentenceCards

namespace Dealing

variable {σ : Type} [Draws σ]

/-- Deals for one challenge after the other, each time from the source that the last one left. -/
def dealInTurn (catalog : Catalog) (decoys : Nat) : List Challenge → σ → List (List Card) × σ
  | [], source => ([], source)
  | challenge :: later, source =>
      let (hand, source) := deal catalog challenge decoys source
      let (hands, source) := dealInTurn catalog decoys later source
      (hand :: hands, source)

theorem dealInTurn_concat {catalog : Catalog} {decoys : Nat} {earlier : List Challenge}
    {source later : σ} {hands : List (List Card)}
    (dealt : dealInTurn catalog decoys earlier source = (hands, later)) (challenge : Challenge) :
    dealInTurn catalog decoys (earlier ++ [challenge]) source =
      (hands ++ [(deal catalog challenge decoys later).1],
        (deal catalog challenge decoys later).2) := by
  induction earlier generalizing source hands with
  | nil =>
      cases dealt
      rfl
  | cons first rest ih =>
      rcases further : dealInTurn catalog decoys rest (deal catalog first decoys source).2 with
        ⟨others, last⟩
      simp only [dealInTurn, further] at dealt
      obtain ⟨rfl, rfl⟩ := Prod.mk.inj dealt
      simp only [List.cons_append, dealInTurn, ih further]

end Dealing

namespace Session

/-- The challenge of a lesson that a step enters, with the hand that is dealt for it.  Building
freely deals nothing: all cards are there. -/
def Step.entering? (step : Step) : Option (Challenge × List Card) :=
  match step.operation, step.answer with
  | .startLesson _, .ok (.challenge (some challenge))
  | .next, .ok (.challenge (some challenge)) => some (challenge, step.after.hand)
  | _, _ => none

def entries (steps : List Step) : List (Challenge × List Card) := steps.filterMap Step.entering?

def entered (steps : List Step) : List Challenge := (entries steps).map Prod.fst

def dealtHands (steps : List Step) : List (List Card) := (entries steps).map Prod.snd

section Entry

variable {before later : Session} {operation : Operation} {answer : Except Failure Answer}

theorem Transition.same_sources (transition : Transition before operation answer later) :
    later.catalog = before.catalog ∧ later.decoys = before.decoys := by
  cases transition with
  | @submitted challenge =>
      exact ⟨catalog_afterSubmission before challenge, decoys_afterSubmission before challenge⟩
  | refused | unrecognized | said | lessonStarted | freeBuildStarted | placed | taken | cleared
  | hinted | advanced | atEnd | logSet => exact ⟨rfl, rfl⟩

/-- A step enters a challenge and draws its hand, or it draws nothing. -/
theorem Transition.deals_or_keeps (transition : Transition before operation answer later) :
    (∃ challenge, (Step.mk before operation).entering? = some (challenge, later.hand) ∧
        (later.hand, later.generator) =
          Dealing.deal before.catalog challenge before.decoys before.generator) ∨
      ((Step.mk before operation).entering? = none ∧ later.generator = before.generator) := by
  have answered := Step.answer_eq transition
  have ended := Step.after_eq transition
  cases transition with
  | @lessonStarted _ _ first =>
      left
      refine ⟨first, ?_, rfl⟩
      simp only [Step.entering?, answered, ended]
  | @advanced _ following =>
      left
      refine ⟨following, ?_, rfl⟩
      simp only [Step.entering?, answered, ended]
  | @submitted challenge =>
      right
      refine ⟨?_, generator_afterSubmission before challenge⟩
      simp only [Step.entering?]
  | @refused _ failure =>
      right
      refine ⟨?_, rfl⟩
      cases operation <;> simp only [Step.entering?, answered]
  | atEnd =>
      right
      refine ⟨?_, rfl⟩
      simp only [Step.entering?, answered]
  | unrecognized | said | freeBuildStarted | placed | taken | cleared | hinted | logSet =>
      right
      refine ⟨?_, rfl⟩
      simp only [Step.entering?]

end Entry

/-- The hands of the steps have been dealt in turn, and the session goes on with the generator that
is left. -/
structure DealsInTurn (origin : Session) (steps : List Step) (session : Session) : Prop where
  catalog : session.catalog = origin.catalog
  decoys : session.decoys = origin.decoys
  hands : Dealing.dealInTurn origin.catalog origin.decoys (entered steps) origin.generator =
    (dealtHands steps, session.generator)

namespace DealsInTurn

variable {origin before later : Session} {earlier : List Step} {operation : Operation}
  {answer : Except Failure Answer}

theorem further (transition : Transition before operation answer later)
    (deals : DealsInTurn origin earlier before) :
    DealsInTurn origin (earlier ++ [⟨before, operation⟩]) later := by
  obtain ⟨sameCatalog, sameDecoys⟩ := transition.same_sources
  refine ⟨sameCatalog.trans deals.catalog, sameDecoys.trans deals.decoys, ?_⟩
  rcases transition.deals_or_keeps with ⟨challenge, entry, dealt⟩ | ⟨none, kept⟩
  · have more := Dealing.dealInTurn_concat deals.hands challenge
    rw [deals.catalog, deals.decoys] at dealt
    rw [← dealt] at more
    simpa [entered, dealtHands, entries, entry] using more
  · rw [kept]
    simpa [entered, dealtHands, entries, none] using deals.hands

theorem of_run (origin : Session) (operations : List Operation) :
    DealsInTurn origin (origin.steps operations) (origin.afterAll operations) :=
  run_induction (DealsInTurn origin) origin ⟨rfl, rfl, rfl⟩ further operations

end DealsInTurn

/-- In two runs from one seed and with as many decoys that enter the same challenges of lessons,
the same hands are dealt, whatever else is done in between. -/
theorem same_hands_of_same_challenges (catalog : Catalog) (curriculum : Curriculum)
    (plan other : SessionPlan) (seed : plan.seed = other.seed) (decoys : plan.decoys = other.decoys)
    (operations others : List Operation)
    (same : entered ((start catalog curriculum plan).steps operations) =
      entered ((start catalog curriculum other).steps others)) :
    dealtHands ((start catalog curriculum plan).steps operations) =
      dealtHands ((start catalog curriculum other).steps others) := by
  have hands := (DealsInTurn.of_run (start catalog curriculum plan) operations).hands
  have otherHands := (DealsInTurn.of_run (start catalog curriculum other) others).hands
  have origin : (start catalog curriculum other).generator =
      (start catalog curriculum plan).generator := congrArg Dealing.Generator.ofSeed seed.symm
  have amount : (start catalog curriculum other).decoys = (start catalog curriculum plan).decoys :=
    decoys.symm
  rw [origin, amount, ← same] at otherHands
  exact congrArg Prod.fst (hands.symm.trans otherHands)

/-- One lesson of two challenges. -/
def shortCourse : Curriculum where
  modules := [⟨"module_1", "", "", 1, [Curriculum.meetKo]⟩]
  challenges := [
    { Challenge.plain "c_1_1_1" .ko with required := ["p_ko"] },
    { Challenge.plain "c_1_1_2" .he with required := ["p_he"] }]

theorem same_hands_of_same_challenges_interrupted :
    let plan : SessionPlan := ⟨7, 1, .usual, .annotate⟩
    let traced : SessionPlan := ⟨7, 1, { Trace.Settings.usual with enabled := true }, .pluralize⟩
    let steps := (start .standard shortCourse plan).steps [.startLesson "lesson_1_1", .next]
    let otherSteps := (start .standard shortCourse traced).steps
      [.next, .startFreeBuild .he, .place 1 0, .submit, .next, .startLesson "lesson_9_9",
        .startLesson "lesson_1_1", .place 0 0, .hint, .submit, .setLog .empty, .take 0, .next,
        .next, .reset]
    entered steps = shortCourse.challenges ∧ entered otherSteps = shortCourse.challenges ∧
      dealtHands steps = dealtHands otherSteps := by
  intro plan traced steps otherSteps
  have both : entered steps = shortCourse.challenges := by decide +kernel
  have bothToo : entered otherSteps = shortCourse.challenges := by decide +kernel
  exact ⟨both, bothToo, same_hands_of_same_challenges .standard shortCourse plan traced rfl rfl _ _
    (both.trans bothToo.symm)⟩

end Session

end SentenceCards
