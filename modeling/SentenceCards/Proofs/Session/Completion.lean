import SentenceCards.Proofs.Session.Accounts
import SentenceCards.Proofs.Session.Filling

/-!
# Completing a lesson

A lesson whose challenges can be solved by their own cards can be completed from every session,
whatever was dealt and however the player picks among fitting cards (`lesson_completed`).  The
challenges come in the order of the curriculum, each of them earns its points, and the last one
completes the lesson.
-/

namespace SentenceCards

/-- What comes of submitting the required cards in order, if they are a correct sentence. -/
def Challenge.solution (challenge : Challenge) (catalog : Catalog) (style : PluralStyle)
    (lessonComplete : Bool) : Submission where
  verdict :=
    challenge.pattern.judge style (Dealing.requiredCards catalog challenge) challenge.target
  points := pointsPerSentence
  lessonComplete := lessonComplete

/-- The challenge has a place for each required card, and the required cards in order are a
correct sentence. -/
structure Challenge.WellPosed (challenge : Challenge) (catalog : Catalog) (style : PluralStyle) :
    Prop where
  places : challenge.places ≠ []
  fitting : challenge.places.length = challenge.required.length
  correct : (challenge.pattern.judge style (Dealing.requiredCards catalog challenge)
    challenge.target).correct = true

namespace Challenge.WellPosed

variable {challenge : Challenge} {catalog : Catalog} {style : PluralStyle}

instance : Decidable (challenge.WellPosed catalog style) :=
  decidable_of_iff
    (challenge.places ≠ [] ∧ challenge.places.length = challenge.required.length ∧
      (challenge.pattern.judge style (Dealing.requiredCards catalog challenge)
        challenge.target).correct = true)
    ⟨fun ⟨places, fitting, correct⟩ => ⟨places, fitting, correct⟩,
      fun ⟨places, fitting, correct⟩ => ⟨places, fitting, correct⟩⟩

theorem slotCount_eq (wellPosed : challenge.WellPosed catalog style) :
    challenge.slotCount = challenge.required.length := by
  simp [slotCount, wellPosed.places, wellPosed.fitting]

end Challenge.WellPosed

namespace Session

/-- Fills the slots, submits and goes on. -/
def Player.solve (player : Player) (session : Session) (challenge : Challenge) : List Operation :=
  player.fill session 0 challenge.required ++ [.submit, .next]

def Player.goThrough (player : Player) (session : Session) : List Challenge → List Operation
  | [] => []
  | challenge :: later =>
      let operations := player.solve session challenge
      operations ++ player.goThrough (session.afterAll operations) later

/-- Starts a lesson and goes through its challenges. -/
def Player.play (player : Player) (session : Session) (lessonId : String) : List Operation :=
  let operation := Operation.startLesson lessonId
  operation :: player.goThrough (session.perform operation).2
    (session.curriculum.challengesOf lessonId)

/-- The answers to going through the challenges: every card can be placed, the required cards are
judged and earn the points, and the next challenge is entered.  With the last challenge the lesson
is complete, and there is no next one. -/
def answersThrough (catalog : Catalog) (style : PluralStyle) :
    List Challenge → List (Except Failure Answer)
  | [] => []
  | challenge :: later =>
      List.replicate challenge.required.length (.ok .done) ++
        [.ok (.submission (challenge.solution catalog style later.isEmpty)),
          .ok (.challenge later.head?)] ++
        answersThrough catalog style later

section Answers

variable {catalog : Catalog} {style : PluralStyle} {challenges : List Challenge}

theorem correct_of_mem_answersThrough
    (wellPosed : ∀ challenge ∈ challenges, challenge.WellPosed catalog style)
    {submission : Submission}
    (member : .ok (.submission submission) ∈ answersThrough catalog style challenges) :
    submission.verdict.correct = true ∧ submission.points = pointsPerSentence := by
  induction challenges with
  | nil => simp [answersThrough] at member
  | cons challenge later ih =>
      obtain ⟨first, rest⟩ := List.forall_mem_cons.mp wellPosed
      simp only [answersThrough, List.mem_append, List.mem_replicate, List.mem_cons] at member
      rcases member with (⟨_, placed⟩ | submitted | entered | none) | further
      · simp at placed
      · obtain rfl : submission = challenge.solution catalog style later.isEmpty := by
          simpa using submitted
        exact ⟨first.correct, rfl⟩
      · simp at entered
      · simp at none
      · exact ih rest further

end Answers

section Filled

variable (session : Session) (challenge : Challenge) (hand : List Card)

theorem built_filled :
    (session.filled challenge hand).built = Dealing.requiredCards session.catalog challenge := by
  simp [built, filled, Slots.placed, List.filterMap_map]

variable {session challenge}

theorem isReady_filled (wellPosed : challenge.WellPosed session.catalog session.style) :
    isReady challenge (session.filled challenge hand).slots = true := by
  simp [isReady, wellPosed.places, filled, Slots.isComplete]

end Filled

theorem toNat_add_pointsPerSentence {total : UInt32} (room : total.toNat + 10 < UInt32.size) :
    (total + pointsPerSentence).toNat = total.toNat + 10 := by
  have ten : pointsPerSentence.toNat = 10 := rfl
  rw [UInt32.toNat_add, ten, Nat.mod_eq_of_lt room]

/-- The lesson was started from `origin`, and the challenges `solved` have been answered
correctly. -/
structure InProgress (origin : Session) (lessonId : String) (solved later : List Challenge)
    (session : Session) : Prop where
  catalog : session.catalog = origin.catalog
  curriculum : session.curriculum = origin.curriculum
  style : session.style = origin.style
  underway : session.lessonId = some lessonId
  challenges : session.challenges = solved ++ later
  score : session.score.toNat = origin.score.toNat + 10 * solved.length
  lessonScore : session.lessonScore.toNat = 10 * solved.length

namespace InProgress

variable {origin session : Session} {lessonId : String} {solved later : List Challenge}
  {challenge : Challenge}

theorem dealt (progress : InProgress origin lessonId solved later session)
    (generator : Dealing.Generator) (index : Nat) (hand : List Card) (slots : Slots) :
    InProgress origin lessonId solved later
      { session with generator := generator, index := index, hand := hand, slots := slots } where
  catalog := progress.catalog
  curriculum := progress.curriculum
  style := progress.style
  underway := progress.underway
  challenges := progress.challenges
  score := progress.score
  lessonScore := progress.lessonScore

theorem filled (progress : InProgress origin lessonId solved later session)
    (challenge : Challenge) (hand : List Card) :
    InProgress origin lessonId solved later (session.filled challenge hand) :=
  progress.dealt _ _ _ _

theorem afterSubmission
    (progress : InProgress origin lessonId solved (challenge :: later) session)
    (earned : (session.submission challenge).points = pointsPerSentence)
    (room : origin.score.toNat + 10 * (solved.length + 1) < UInt32.size) :
    InProgress origin lessonId (solved ++ [challenge]) later
      (session.afterSubmission challenge) where
  catalog := by rw [catalog_afterSubmission, progress.catalog]
  curriculum := by rw [curriculum_afterSubmission, progress.curriculum]
  style := by rw [style_afterSubmission, progress.style]
  underway := by rw [lessonId_afterSubmission, progress.underway]
  challenges := by simp [progress.challenges]
  score := by
    have score := progress.score
    rw [score_afterSubmission, earned, toNat_add_pointsPerSentence (by omega), score,
      List.length_append, List.length_singleton]
    omega
  lessonScore := by
    have score := progress.lessonScore
    rw [lessonScore_afterSubmission, earned, toNat_add_pointsPerSentence (by omega), score,
      List.length_append, List.length_singleton]
    omega

end InProgress

/-- The challenge after the solved ones has just been entered. -/
structure AtChallenge (origin : Session) (lessonId : String) (solved : List Challenge)
    (challenge : Challenge) (later : List Challenge) (session : Session) : Prop where
  progress : InProgress origin lessonId solved (challenge :: later) session
  index : session.index = solved.length
  filling : Filling session challenge [] challenge.required

/-- The lesson is completed, with the points of `count` challenges. -/
structure Completed (origin : Session) (lessonId : String) (count : Nat) (session : Session) :
    Prop where
  score : session.score.toNat = origin.score.toNat + 10 * count
  row : ∃ row, session.log.progressIn? lessonId = some row ∧ row.status = .completed ∧
    10 * count ≤ row.score.toNat

namespace AtChallenge

variable {origin session : Session} {lessonId : String} {solved later : List Challenge}
  {challenge next : Challenge}

theorem of_enter (progress : InProgress origin lessonId solved (challenge :: later) session)
    (wellPosed : challenge.WellPosed origin.catalog origin.style) :
    AtChallenge origin lessonId solved challenge later
      (session.enter solved.length challenge) where
  progress := progress.dealt _ _ _ _
  index := rfl
  filling := by
    apply Filling.of_enter _ wellPosed.slotCount_eq
    rw [progress.challenges]
    simp

theorem submission_filled (here : AtChallenge origin lessonId solved challenge later session)
    (wellPosed : challenge.WellPosed origin.catalog origin.style) (hand : List Card) :
    (session.filled challenge hand).submission challenge =
      challenge.solution origin.catalog origin.style later.isEmpty := by
  have judged : challenge.pattern.judge (session.filled challenge hand).style
      (session.filled challenge hand).built challenge.target =
      challenge.pattern.judge origin.style (Dealing.requiredCards origin.catalog challenge)
        challenge.target := by
    rw [built_filled, here.progress.catalog]
    exact congrArg (challenge.pattern.judge · _ _) here.progress.style
  have last : (session.filled challenge hand).atLast = later.isEmpty := by
    have challenges := (here.progress.filled challenge hand).challenges
    have index : (session.filled challenge hand).index = solved.length := here.index
    rw [atLast, index, challenges]
    cases later <;> simp
  have underway := (here.progress.filled challenge hand).underway
  simp only [submission, judged, wellPosed.correct, last, underway]
  simp [Challenge.solution]

theorem performAll_submit (here : AtChallenge origin lessonId solved challenge later session)
    (wellPosed : challenge.WellPosed origin.catalog origin.style) (player : Player) :
    ∃ hand, session.performAll (player.fill session 0 challenge.required ++ [.submit]) =
      (List.replicate challenge.required.length (.ok .done) ++
          [.ok (.submission (challenge.solution origin.catalog origin.style later.isEmpty))],
        (session.filled challenge hand).afterSubmission challenge) := by
  obtain ⟨hand, built⟩ := performAll_fill player here.filling
  have active : (session.filled challenge hand).challenge? = some challenge := here.filling.active
  have solvable : challenge.WellPosed session.catalog session.style := by
    rw [here.progress.catalog, here.progress.style]
    exact wellPosed
  have submitted := (Transition.submitted active (isReady_filled hand solvable)).perform_eq
  rw [here.submission_filled wellPosed] at submitted
  refine ⟨hand, ?_⟩
  rw [List.length_nil] at built
  rw [performAll_append, built]
  simp only [performAll, submitted]

theorem afterSubmission (here : AtChallenge origin lessonId solved challenge later session)
    (wellPosed : challenge.WellPosed origin.catalog origin.style)
    (room : origin.score.toNat + 10 * (solved.length + 1) < UInt32.size) (hand : List Card) :
    InProgress origin lessonId (solved ++ [challenge]) later
      ((session.filled challenge hand).afterSubmission challenge) := by
  apply (here.progress.filled challenge hand).afterSubmission _ room
  rw [here.submission_filled wellPosed]
  rfl

/-- The last submission completes the lesson. -/
theorem completed (here : AtChallenge origin lessonId solved challenge [] session)
    {lesson : Lesson} (known : origin.curriculum.lesson? lessonId = some lesson)
    (wellPosed : challenge.WellPosed origin.catalog origin.style)
    (room : origin.score.toNat + 10 * (solved.length + 1) < UInt32.size) (hand : List Card) :
    Completed origin lessonId (solved.length + 1)
      ((session.filled challenge hand).afterSubmission challenge) := by
  let built := session.filled challenge hand
  have progress := here.afterSubmission wellPosed room hand
  have underway : built.lessonId = some lessonId := here.progress.underway
  have listed : ∀ other, built.lessonId = some other →
      ∃ lesson, built.curriculum.lesson? other = some lesson ∧ lesson.id = other := by
    intro other same
    obtain rfl : lessonId = other := Option.some.inj (underway.symm.trans same)
    refine ⟨lesson, ?_, Curriculum.id_of_lesson? known⟩
    rw [← known, ← here.progress.curriculum]
    rfl
  have completed : (built.afterSubmission challenge).log.isCompletedIn lessonId = true := by
    rw [isCompletedIn_afterSubmission listed, underway, here.submission_filled wellPosed]
    simp [Challenge.solution]
  have points : 10 * (solved.length + 1) ≤
      (built.afterSubmission challenge).log.pointsIn lessonId := by
    rw [pointsIn_afterSubmission listed, if_pos underway, progress.lessonScore,
      List.length_append, List.length_singleton]
    exact le_max_right _ _
  obtain ⟨row, found, status, score⟩ := AttemptLog.exists_row_of_isCompletedIn completed
  constructor
  · rw [progress.score, List.length_append, List.length_singleton]
  · exact ⟨row, found, status, score ▸ points⟩

theorem perform_next (here : AtChallenge origin lessonId solved challenge later session)
    (wellPosed : challenge.WellPosed origin.catalog origin.style)
    (room : origin.score.toNat + 10 * (solved.length + 1) < UInt32.size) (hand : List Card) :
    let after := (session.filled challenge hand).afterSubmission challenge
    after.perform .next =
      (.ok (.challenge later.head?),
        later.head?.elim after (after.enter (solved ++ [challenge]).length)) := by
  intro after
  have progress : InProgress origin lessonId (solved ++ [challenge]) later after :=
    here.afterSubmission wellPosed room hand
  have index : after.index = solved.length := by
    rw [index_afterSubmission]
    exact here.index
  have active : after.challenge? = some challenge := by
    rw [challenge?, index, progress.challenges]
    simp
  cases later with
  | nil =>
      have last : after.challenges[after.index + 1]? = none := by
        rw [index, progress.challenges]
        simp
      exact (Transition.atEnd active last).perform_eq
  | cons next rest =>
      have further : after.challenges[after.index + 1]? = some next := by
        rw [index, progress.challenges]
        simp
      rw [List.length_append, List.length_singleton, ← index]
      exact (Transition.advanced active further).perform_eq

theorem performAll_solve (here : AtChallenge origin lessonId solved challenge later session)
    (wellPosed : challenge.WellPosed origin.catalog origin.style)
    (room : origin.score.toNat + 10 * (solved.length + 1) < UInt32.size) (player : Player) :
    ∃ hand, let after := (session.filled challenge hand).afterSubmission challenge
      session.performAll (player.solve session challenge) =
        (List.replicate challenge.required.length (.ok .done) ++
          [.ok (.submission (challenge.solution origin.catalog origin.style later.isEmpty)),
            .ok (.challenge later.head?)],
          later.head?.elim after (after.enter (solved ++ [challenge]).length)) := by
  obtain ⟨hand, submitted⟩ := here.performAll_submit wellPosed player
  have left := here.perform_next wellPosed room hand
  have apart : player.solve session challenge =
      (player.fill session 0 challenge.required ++ [.submit]) ++ [.next] := by
    simp [Player.solve]
  refine ⟨hand, ?_⟩
  intro after
  rw [apart, performAll_append, submitted]
  simp only [performAll, left, List.append_assoc, List.singleton_append, after]

theorem placesRequired_of_mem_steps_solve
    (here : AtChallenge origin lessonId solved challenge later session) (player : Player) :
    ∀ step ∈ session.steps (player.solve session challenge), step.PlacesRequired := by
  intro step member
  rw [Player.solve, steps_append, List.mem_append] at member
  rcases member with placing | ending
  · exact placesRequired_of_mem_steps_fill player here.filling step placing
  · intro handIndex slot same
    simp only [steps, List.mem_cons] at ending
    rcases ending with rfl | rfl | none
    · exact absurd same (by simp)
    · exact absurd same (by simp)
    · simp at none

theorem solve_last (here : AtChallenge origin lessonId solved challenge [] session)
    {lesson : Lesson} (known : origin.curriculum.lesson? lessonId = some lesson)
    (wellPosed : challenge.WellPosed origin.catalog origin.style)
    (room : origin.score.toNat + 10 * (solved.length + 1) < UInt32.size) (player : Player) :
    ∃ last, session.performAll (player.solve session challenge) =
        (answersThrough origin.catalog origin.style [challenge], last) ∧
      Completed origin lessonId (solved.length + 1) last := by
  obtain ⟨hand, solution⟩ := here.performAll_solve wellPosed room player
  refine ⟨(session.filled challenge hand).afterSubmission challenge, ?_, ?_⟩
  · rw [solution]
    simp [answersThrough]
  · exact here.completed known wellPosed room hand

theorem solve_further
    (here : AtChallenge origin lessonId solved challenge (next :: later) session)
    (wellPosed : challenge.WellPosed origin.catalog origin.style)
    (wellPosedNext : next.WellPosed origin.catalog origin.style)
    (room : origin.score.toNat + 10 * (solved.length + 1) < UInt32.size) (player : Player) :
    ∃ entered, session.performAll (player.solve session challenge) =
        (List.replicate challenge.required.length (.ok .done) ++
          [.ok (.submission (challenge.solution origin.catalog origin.style false)),
            .ok (.challenge (some next))], entered) ∧
      AtChallenge origin lessonId (solved ++ [challenge]) next later entered := by
  obtain ⟨hand, solution⟩ := here.performAll_solve wellPosed room player
  have progress := here.afterSubmission wellPosed room hand
  exact ⟨_, solution, of_enter progress wellPosedNext⟩

/-- From a challenge on, the rest of the lesson can be gone through. -/
theorem goThrough (here : AtChallenge origin lessonId solved challenge later session)
    {lesson : Lesson} (known : origin.curriculum.lesson? lessonId = some lesson)
    (wellPosed : ∀ left ∈ challenge :: later, left.WellPosed origin.catalog origin.style)
    (room : origin.score.toNat + 10 * (solved.length + (later.length + 1)) < UInt32.size)
    (player : Player) :
    ∃ last, session.performAll (player.goThrough session (challenge :: later)) =
        (answersThrough origin.catalog origin.style (challenge :: later), last) ∧
      (∀ step ∈ session.steps (player.goThrough session (challenge :: later)),
        step.PlacesRequired) ∧
      Completed origin lessonId (solved.length + (later.length + 1)) last := by
  have placed := here.placesRequired_of_mem_steps_solve player
  -- The challenges that are left become fewer; solving one leads to the next.
  induction later generalizing solved challenge session with
  | nil =>
      have first := wellPosed challenge (by simp)
      obtain ⟨last, answers, completed⟩ := here.solve_last known first room player
      have only : player.goThrough session [challenge] = player.solve session challenge := by
        simp [Player.goThrough]
      rw [only]
      exact ⟨last, answers, placed, completed⟩
  | cons next rest ih =>
      obtain ⟨first, others⟩ := List.forall_mem_cons.mp wellPosed
      have second := others next (by simp)
      rw [List.length_cons] at room
      obtain ⟨entered, answers, there⟩ :=
        here.solve_further first second (by omega) player
      have after : session.afterAll (player.solve session challenge) = entered :=
        congrArg Prod.snd answers
      have count : (solved ++ [challenge]).length = solved.length + 1 := by simp
      obtain ⟨last, furtherAnswers, furtherPlaced, completed⟩ :=
        ih there others (by omega) (there.placesRequired_of_mem_steps_solve player)
      refine ⟨last, ?_, ?_, ?_⟩
      · rw [Player.goThrough, performAll_append, answers, after, furtherAnswers]
        simp [answersThrough]
      · intro step member
        rw [Player.goThrough, steps_append, after, List.mem_append] at member
        rcases member with now | afterwards
        · exact placed step now
        · exact furtherPlaced step afterwards
      · rw [count, Nat.add_right_comm] at completed
        exact completed

end AtChallenge

theorem atChallenge_inLesson {session : Session} {lesson : Lesson} {first : Challenge}
    {rest : List Challenge} (wellPosed : first.WellPosed session.catalog session.style) :
    AtChallenge session lesson.id [] first rest (session.inLesson lesson first rest) := by
  apply AtChallenge.of_enter _ wellPosed
  exact ⟨rfl, rfl, rfl, rfl, rfl, rfl, rfl⟩

theorem Transition.eq_of_end {before later : Session} {operation : Operation}
    (transition : Transition before operation (.ok (.challenge none)) later) : later = before := by
  cases transition
  rfl

theorem Step.after_eq_of_end {step : Step} (ended : step.answer = .ok (.challenge none)) :
    step.after = step.before := by
  have transition := perform_transition step.before step.operation
  rw [answer] at ended
  rw [ended] at transition
  exact transition.eq_of_end

theorem Step.answer_of_submission? {step : Step} {submission : Submission}
    (submitted : step.submission? = some submission) :
    step.answer = .ok (.submission submission) := by
  unfold Step.submission? at submitted
  split at submitted
  next same =>
    obtain rfl := Option.some.inj submitted
    exact same
  next => simp at submitted

/-- A lesson with challenges that can be solved by their own cards is completed by any player from
any session.  Each step succeeds, whatever is placed is what the active challenge requires in the
slot, and the answers show the challenges in the order of the curriculum, each answered correctly.
Only the last submission completes the lesson, and going on from there changes nothing. -/
theorem lesson_completed (session : Session) (player : Player) {lesson : Lesson}
    (listed : lesson ∈ session.curriculum.lessons)
    (nonempty : session.curriculum.challengesOf lesson.id ≠ [])
    (wellPosed : ∀ challenge ∈ session.curriculum.challengesOf lesson.id,
      challenge.WellPosed session.catalog session.style)
    (room : session.score.toNat + 10 * (session.curriculum.challengesOf lesson.id).length <
      UInt32.size) :
    let challenges := session.curriculum.challengesOf lesson.id
    let operations := player.play session lesson.id
    let last := session.afterAll operations
    (session.performAll operations).1 =
        .ok (.challenge challenges.head?) ::
          answersThrough session.catalog session.style challenges ∧
      (∀ step ∈ session.steps operations, step.PlacesRequired ∧
        (∀ submission, step.submission? = some submission →
          submission.verdict.correct = true ∧ submission.points = 10) ∧
        (step.answer = .ok (.challenge none) → step.after = step.before)) ∧
      last.score.toNat = session.score.toNat + 10 * challenges.length ∧
      ∃ row, last.log.progressIn? lesson.id = some row ∧ row.status = .completed ∧
        10 * challenges.length ≤ row.score.toNat := by
  intro challenges operations last
  obtain ⟨first, rest, these⟩ := List.exists_cons_of_ne_nil nonempty
  rw [these] at wellPosed room
  obtain ⟨known, found⟩ : ∃ known, session.curriculum.lesson? lesson.id = some known := by
    rw [← Option.isSome_iff_exists, Curriculum.lesson?, List.find?_isSome]
    exact ⟨lesson, listed, beq_self_eq_true lesson.id⟩
  have started := (Transition.lessonStarted found these).perform_eq
  have here : AtChallenge session lesson.id [] first rest (session.inLesson known first rest) := by
    rw [← Curriculum.id_of_lesson? found]
    exact atChallenge_inLesson (wellPosed first (by simp))
  rw [List.length_cons] at room
  obtain ⟨ended, answers, placed, completed⟩ :=
    here.goThrough found wellPosed (by rwa [List.length_nil, Nat.zero_add]) player
  have played : operations = .startLesson lesson.id ::
      player.goThrough (session.inLesson known first rest) (first :: rest) := by
    simp only [operations, Player.play, started, these]
  have whole : session.performAll operations =
      (.ok (.challenge (some first)) ::
        answersThrough session.catalog session.style (first :: rest), ended) := by
    rw [played]
    simp only [performAll, started, answers]
  have count : challenges.length = 0 + (rest.length + 1) := by
    simp [challenges, these]
  rw [show last = ended from congrArg Prod.snd whole, count]
  refine ⟨?_, ?_, completed.score, completed.row⟩
  · rw [whole, show challenges = first :: rest from these]
    rfl
  · intro step member
    refine ⟨?_, ?_, Step.after_eq_of_end⟩
    · rw [played] at member
      simp only [steps, started, List.mem_cons] at member
      rcases member with rfl | member
      · intro handIndex slot same
        exact absurd same (by simp)
      · exact placed step member
    · intro submission submitted
      have answered := List.mem_map_of_mem (f := Step.answer) member
      rw [map_answer_steps, whole, Step.answer_of_submission? submitted, List.mem_cons] at answered
      rcases answered with same | among
      · simp at same
      · exact correct_of_mem_answersThrough wellPosed among

/-- A session in which one sentence has been built freely. -/
def afterFreeSentence : Session :=
  (start .standard .standard .usual).afterAll
    [.startFreeBuild .he, .place 1 0, .place 3 1, .submit]

theorem lesson_completed_meetKo :
    let last := afterFreeSentence.afterAll
      (Player.first.play afterFreeSentence Curriculum.meetKo.id)
    Curriculum.meetKo ∈ afterFreeSentence.curriculum.lessons ∧ afterFreeSentence.score = 10 ∧
      last.score.toNat = 30 ∧
      ∃ row, last.log.progressIn? Curriculum.meetKo.id = some row ∧ row.status = .completed ∧
        20 ≤ row.score.toNat := by
  have listed : Curriculum.meetKo ∈ afterFreeSentence.curriculum.lessons := by decide +kernel
  have two : (afterFreeSentence.curriculum.challengesOf Curriculum.meetKo.id).length = 2 := by
    decide +kernel
  have nonempty : afterFreeSentence.curriculum.challengesOf Curriculum.meetKo.id ≠ [] := by
    intro empty
    simp [empty] at two
  have wellPosed : ∀ challenge ∈ afterFreeSentence.curriculum.challengesOf Curriculum.meetKo.id,
      challenge.WellPosed afterFreeSentence.catalog afterFreeSentence.style := by decide +kernel
  have ten : afterFreeSentence.score = 10 := by decide +kernel
  have room : afterFreeSentence.score.toNat +
      10 * (afterFreeSentence.curriculum.challengesOf Curriculum.meetKo.id).length <
        UInt32.size := by
    rw [ten, two]
    decide
  obtain ⟨_, _, score, row, found, status, points⟩ :=
    lesson_completed afterFreeSentence Player.first listed nonempty wellPosed room
  rw [two] at score points
  rw [ten] at score
  exact ⟨listed, ten, score, row, found, status, points⟩

end Session

end SentenceCards
