import SentenceCards.Proofs.Slots
import SentenceCards.Session.Operation

/-!
# What an operation can do

`Session.perform` tries its checks one after the other.  `Refusal` lists every reason for
which an operation is refused, and `Transition` every way in which one ends.  Properties of
sessions follow from these lists (`perform_transition`), without a look at the checks again.
-/

namespace SentenceCards

/-- Whether the operation works on the active challenge, and so needs one. -/
def Operation.needsChallenge : Operation → Bool
  | .place .. | .hint | .submit | .next => true
  | _ => false

namespace Session

/-- What is submitted is every placed card. -/
theorem leading_eq_built_of_isReady {session : Session} {challenge : Challenge}
    (ready : isReady challenge session.slots = true) : session.slots.leading = session.built := by
  unfold isReady at ready
  split at ready
  · exact Slots.leading_eq_placed_of_length (beq_iff_eq.mp ready)
  · exact Slots.leading_eq_placed_of_isComplete ready

def submission (session : Session) (challenge : Challenge) : Submission :=
  let verdict := challenge.pattern.judge session.style session.built challenge.target
  { verdict := verdict
    points := if verdict.correct then pointsPerSentence else 0
    lessonComplete := verdict.correct && session.atLast && session.lessonId.isSome }

def afterSubmission (session : Session) (challenge : Challenge) : Session :=
  let submission := session.submission challenge
  let events := Trace.judgingEvents challenge.pattern session.built submission.verdict
  let judged := { session with recorder := session.recorder.nextAttempt.recordAll events }
  ((judged.earn submission.points).recordAttempt challenge.id session.built
    submission.verdict.correct).noteProgress submission.lessonComplete

def inLesson (session : Session) (lesson : Lesson) (first : Challenge) (rest : List Challenge) :
    Session :=
  (session.takeUp lesson (first :: rest)).enter 0 first

section NoteProgress

variable (session : Session) (completed : Bool)

@[simp] theorem catalog_noteProgress :
    (session.noteProgress completed).catalog = session.catalog := by
  unfold noteProgress
  split <;> rfl

@[simp] theorem curriculum_noteProgress :
    (session.noteProgress completed).curriculum = session.curriculum := by
  unfold noteProgress
  split <;> rfl

@[simp] theorem style_noteProgress :
    (session.noteProgress completed).style = session.style := by
  unfold noteProgress
  split <;> rfl

@[simp] theorem decoys_noteProgress :
    (session.noteProgress completed).decoys = session.decoys := by
  unfold noteProgress
  split <;> rfl

@[simp] theorem recorder_noteProgress :
    (session.noteProgress completed).recorder = session.recorder := by
  unfold noteProgress
  split <;> rfl

@[simp] theorem generator_noteProgress :
    (session.noteProgress completed).generator = session.generator := by
  unfold noteProgress
  split <;> rfl

@[simp] theorem lessonId_noteProgress :
    (session.noteProgress completed).lessonId = session.lessonId := by
  unfold noteProgress
  split <;> rfl

@[simp] theorem challenges_noteProgress :
    (session.noteProgress completed).challenges = session.challenges := by
  unfold noteProgress
  split <;> rfl

@[simp] theorem index_noteProgress :
    (session.noteProgress completed).index = session.index := by
  unfold noteProgress
  split <;> rfl

@[simp] theorem hand_noteProgress :
    (session.noteProgress completed).hand = session.hand := by
  unfold noteProgress
  split <;> rfl

@[simp] theorem slots_noteProgress :
    (session.noteProgress completed).slots = session.slots := by
  unfold noteProgress
  split <;> rfl

@[simp] theorem score_noteProgress :
    (session.noteProgress completed).score = session.score := by
  unfold noteProgress
  split <;> rfl

@[simp] theorem lessonScore_noteProgress :
    (session.noteProgress completed).lessonScore = session.lessonScore := by
  unfold noteProgress
  split <;> rfl

@[simp] theorem attempts_noteProgress :
    (session.noteProgress completed).log.attempts = session.log.attempts := by
  unfold noteProgress
  split <;> rfl

theorem log_noteProgress_of_free (free : session.lessonId = none) :
    (session.noteProgress completed).log = session.log := by
  simp [noteProgress, free]

theorem log_noteProgress_of_lesson {lesson : Lesson}
    (underway : session.lessonId = some lesson.id)
    (known : session.curriculum.lesson? lesson.id = some lesson) :
    (session.noteProgress completed).log =
      session.log.advance lesson.id lesson.moduleId
        (if completed then .completed else .inProgress) session.lessonScore := by
  simp [noteProgress, underway, known]

end NoteProgress

section AfterSubmission

variable (session : Session) (challenge : Challenge)

@[simp] theorem catalog_afterSubmission :
    (session.afterSubmission challenge).catalog = session.catalog :=
  catalog_noteProgress _ _

@[simp] theorem curriculum_afterSubmission :
    (session.afterSubmission challenge).curriculum = session.curriculum :=
  curriculum_noteProgress _ _

@[simp] theorem style_afterSubmission :
    (session.afterSubmission challenge).style = session.style :=
  style_noteProgress _ _

@[simp] theorem decoys_afterSubmission :
    (session.afterSubmission challenge).decoys = session.decoys :=
  decoys_noteProgress _ _

@[simp] theorem generator_afterSubmission :
    (session.afterSubmission challenge).generator = session.generator :=
  generator_noteProgress _ _

@[simp] theorem lessonId_afterSubmission :
    (session.afterSubmission challenge).lessonId = session.lessonId :=
  lessonId_noteProgress _ _

@[simp] theorem challenges_afterSubmission :
    (session.afterSubmission challenge).challenges = session.challenges :=
  challenges_noteProgress _ _

@[simp] theorem index_afterSubmission :
    (session.afterSubmission challenge).index = session.index :=
  index_noteProgress _ _

@[simp] theorem hand_afterSubmission :
    (session.afterSubmission challenge).hand = session.hand :=
  hand_noteProgress _ _

@[simp] theorem slots_afterSubmission :
    (session.afterSubmission challenge).slots = session.slots :=
  slots_noteProgress _ _

theorem recorder_afterSubmission :
    let verdict := (session.submission challenge).verdict
    (session.afterSubmission challenge).recorder =
      (session.recorder.nextAttempt.recordAll
        (Trace.judgingEvents challenge.pattern session.built verdict)).record
          (.attemptRecorded challenge.id verdict.correct) :=
  recorder_noteProgress _ _

theorem score_afterSubmission :
    (session.afterSubmission challenge).score =
      session.score + (session.submission challenge).points :=
  score_noteProgress _ _

theorem lessonScore_afterSubmission :
    (session.afterSubmission challenge).lessonScore =
      session.lessonScore + (session.submission challenge).points :=
  lessonScore_noteProgress _ _

theorem attempts_afterSubmission :
    (session.afterSubmission challenge).log.attempts =
      session.log.attempts ++
        [⟨challenge.id, session.built.map fun card => ⟨card.surface, card.category.name⟩,
          (session.submission challenge).verdict.correct⟩] :=
  attempts_noteProgress _ _

end AfterSubmission

/-- The reasons for which an operation is refused. -/
inductive Refusal (session : Session) : Operation → Failure → Prop where
  | unknownLesson {lessonId : String}
      (absent : session.curriculum.lesson? lessonId = none) :
      Refusal session (.startLesson lessonId) (Cause.lessonNotFound lessonId).failure
  | emptyLesson {lessonId : String} {lesson : Lesson}
      (found : session.curriculum.lesson? lessonId = some lesson)
      (empty : session.curriculum.challengesOf lessonId = []) :
      Refusal session (.startLesson lessonId)
        ((Cause.challengeNotFound lessonId).during lessonId "start_lesson")
  | inactive {operation : Operation} (needed : operation.needsChallenge = true)
      (absent : session.challenge? = none) :
      Refusal session operation Cause.noActiveChallenge.failure
  | noCard {handIndex slot : Nat} {challenge : Challenge}
      (active : session.challenge? = some challenge)
      (absent : session.hand[handIndex]? = none) :
      Refusal session (.place handIndex slot) (Cause.noHandCard handIndex).failure
  | noSlotToFill {handIndex slot : Nat} {challenge : Challenge} {card : Card}
      (active : session.challenge? = some challenge)
      (held : session.hand[handIndex]? = some card)
      (absent : session.slots.cells[slot]? = none) :
      Refusal session (.place handIndex slot)
        (Cause.slotOutOfRange slot session.slots.size).failure
  | slotFilled {handIndex slot : Nat} {challenge : Challenge} {card other : Card}
      (active : session.challenge? = some challenge)
      (held : session.hand[handIndex]? = some card)
      (filled : session.slots.cells[slot]? = some (some other)) :
      Refusal session (.place handIndex slot) (Cause.slotOccupied slot).failure
  | noSlotToEmpty {slot : Nat} (absent : session.slots.cells[slot]? = none) :
      Refusal session (.take slot) (Cause.slotOutOfRange slot session.slots.size).failure
  | nothingToTake {slot : Nat} (free : session.slots.cells[slot]? = some none) :
      Refusal session (.take slot) (Cause.slotEmpty slot).failure
  | incomplete {challenge : Challenge} (active : session.challenge? = some challenge)
      (gapped : isReady challenge session.slots = false) :
      Refusal session .submit
        ((Cause.incompleteSentence session.slots.emptyCount).during challenge.id "submit")
  | unreadable {text : String} {failure : Failure}
      (unread : session.catalog.cardsOf text = .error failure) :
      Refusal session (.say text) failure

/-- The ways in which an operation ends: its answer, and the session afterwards. -/
inductive Transition (session : Session) :
    Operation → Except Failure Answer → Session → Prop where
  | refused {operation : Operation} {failure : Failure}
      (refusal : Refusal session operation failure) :
      Transition session operation (.error failure) session
  | unrecognized {text : String} {cards : List Card}
      (read : session.catalog.cardsOf text = .ok cards) (shapeless : detect cards = none) :
      Transition session (.say text) (.error (Cause.unknownPattern (sentence cards)).failure)
        { session with recorder := session.recorder.nextAttempt }
  | said {text : String} {cards : List Card} {pattern : Pattern}
      (read : session.catalog.cardsOf text = .ok cards)
      (detected : detect cards = some pattern) :
      Transition session (.say text)
        (.ok (.said pattern (pattern.judge session.style cards none)))
        { session with
          recorder := (session.recorder.nextAttempt.recordAll
              [Trace.Event.patternDetected pattern]).recordAll
            (Trace.judgingEvents pattern cards (pattern.judge session.style cards none)) }
  | lessonStarted {lessonId : String} {lesson : Lesson} {first : Challenge}
      {rest : List Challenge}
      (found : session.curriculum.lesson? lessonId = some lesson)
      (listed : session.curriculum.challengesOf lessonId = first :: rest) :
      Transition session (.startLesson lessonId) (.ok (.challenge (some first)))
        (session.inLesson lesson first rest)
  | freeBuildStarted (pattern : Pattern) :
      Transition session (.startFreeBuild pattern)
        (.ok (.challenge (some (Challenge.freeBuild pattern)))) (session.startFreeBuild pattern)
  | placed {handIndex slot : Nat} {challenge : Challenge} {card : Card}
      (active : session.challenge? = some challenge)
      (held : session.hand[handIndex]? = some card)
      (free : session.slots.cells[slot]? = some none) :
      Transition session (.place handIndex slot) (.ok .done)
        { session with
          hand := session.hand.eraseIdx handIndex
          slots := ⟨session.slots.cells.set slot (some card)⟩ }
  | taken {slot : Nat} {card : Card}
      (filled : session.slots.cells[slot]? = some (some card)) :
      Transition session (.take slot) (.ok (.card card))
        { session with
          hand := session.hand ++ [card]
          slots := ⟨session.slots.cells.set slot none⟩ }
  | cleared : Transition session .reset (.ok .done) session.reset
  | hinted {challenge : Challenge} (active : session.challenge? = some challenge) :
      Transition session .hint
        (.ok (.hint ((challenge.pattern.hint session.slots.leading).or challenge.hints.head?)))
        { session with
          recorder := session.recorder.recordAll
            ((challenge.pattern.hint session.slots.leading).map
              (Trace.Event.hintIssued challenge.pattern)).toList }
  | submitted {challenge : Challenge} (active : session.challenge? = some challenge)
      (ready : isReady challenge session.slots = true) :
      Transition session .submit (.ok (.submission (session.submission challenge)))
        (session.afterSubmission challenge)
  | advanced {challenge following : Challenge}
      (active : session.challenge? = some challenge)
      (further : session.challenges[session.index + 1]? = some following) :
      Transition session .next (.ok (.challenge (some following)))
        (session.enter (session.index + 1) following)
  | atEnd {challenge : Challenge} (active : session.challenge? = some challenge)
      (last : session.challenges[session.index + 1]? = none) :
      Transition session .next (.ok (.challenge none)) session
  | logSet (log : AttemptLog) :
      Transition session (.setLog log) (.ok .done) (session.withLog log)

section Active

variable {session : Session}

theorem active_on_of_none (absent : session.challenge? = none) :
    Session.active.on session = (.error Cause.noActiveChallenge.failure, session) := by
  simp [Session.active, absent]

theorem active_on_of_some {challenge : Challenge} (active : session.challenge? = some challenge) :
    Session.active.on session = (.ok challenge, session) := by
  simp [Session.active, active]

theorem goTo_on {index : Nat} {challenge : Challenge}
    (listed : session.challenges[index]? = some challenge) :
    (goTo index).on session = (.ok challenge, session.enter index challenge) := by
  simp [goTo, listed]

end Active

/-- A refused operation reports the reason, and nothing has been written before. -/
theorem perform_of_refusal {session : Session} {operation : Operation} {failure : Failure}
    (refusal : Refusal session operation failure) :
    session.perform operation = (.error failure, session) := by
  cases refusal with
  | unknownLesson absent => simp [perform, carryOut, startLesson, absent]
  | emptyLesson found empty => simp [perform, carryOut, startLesson, found, empty]
  | inactive needed absent =>
      have stopped := active_on_of_none absent
      cases operation with
      | place => simp [perform, carryOut, place, stopped]
      | hint => simp [perform, carryOut, hint, stopped]
      | submit => simp [perform, carryOut, submit, stopped]
      | next => simp [perform, carryOut, next, stopped]
      | startLesson | startFreeBuild | take | reset | say | setLog =>
          exact absurd needed Bool.false_ne_true
  | noCard active absent => simp [perform, carryOut, place, active_on_of_some active, absent]
  | noSlotToFill active held absent =>
      simp [perform, carryOut, place, active_on_of_some active, held, Slots.place, absent]
  | slotFilled active held filled =>
      simp [perform, carryOut, place, active_on_of_some active, held, Slots.place, filled]
  | noSlotToEmpty absent => simp [perform, carryOut, take, Slots.take, absent]
  | nothingToTake free => simp [perform, carryOut, take, Slots.take, free]
  | incomplete active gapped =>
      simp [perform, carryOut, submit, active_on_of_some active, readySentence, gapped]
  | unreadable unread => simp [perform, carryOut, say, unread]

theorem startLesson_on {session : Session} {lessonId : String} {lesson : Lesson}
    {first : Challenge} {rest : List Challenge}
    (found : session.curriculum.lesson? lessonId = some lesson)
    (listed : session.curriculum.challengesOf lessonId = first :: rest) :
    (startLesson lessonId).on session = (.ok first, session.inLesson lesson first rest) := by
  -- The lesson has been taken up when its first challenge is entered, which cannot fail any more.
  have entered : (goTo 0).on (session.takeUp lesson (first :: rest)) =
      (.ok first, session.inLesson lesson first rest) := goTo_on rfl
  simp [startLesson, found, listed, entered]

theorem submit_on {session : Session} {challenge : Challenge}
    (active : session.challenge? = some challenge)
    (ready : isReady challenge session.slots = true) :
    submit.on session =
      (.ok (session.submission challenge), session.afterSubmission challenge) := by
  simp only [submit, Action.on_bind, active_on_of_some active, Action.on_get, readySentence, ready,
    if_true, Action.on_ofExcept, leading_eq_built_of_isReady ready]
  rfl

theorem Transition.perform_eq {session later : Session} {operation : Operation}
    {answer : Except Failure Answer} (transition : Transition session operation answer later) :
    session.perform operation = (answer, later) := by
  cases transition with
  | refused refusal => exact perform_of_refusal refusal
  | unrecognized read shapeless =>
      simp [perform, carryOut, say, read, detected, nextAttempt, Trace.Recorder.detect, shapeless,
        Trace.Recorder.recordAll]
  | said read found =>
      simp [perform, carryOut, say, read, detected, nextAttempt, Trace.Recorder.detect, found,
        judge, Trace.Recorder.judge]
  | lessonStarted found listed => simp [perform, carryOut, startLesson_on found listed]
  | freeBuildStarted => rfl
  | placed active held free =>
      simp [perform, carryOut, place, active_on_of_some active, held, Slots.place, free]
  | taken filled => simp [perform, carryOut, take, Slots.take, filled]
  | cleared => rfl
  | hinted active =>
      simp [perform, carryOut, hint, active_on_of_some active, Trace.Recorder.hint]
  | submitted active ready => simp [perform, carryOut, submit_on active ready]
  | advanced active further =>
      obtain ⟨inside, _⟩ := List.getElem?_eq_some_iff.mp further
      simp [perform, carryOut, next, active_on_of_some active, Nat.not_le.mpr inside,
        goTo_on further]
  | atEnd active last =>
      have past := List.getElem?_eq_none_iff.mp last
      simp [perform, carryOut, next, active_on_of_some active, past]
  | logSet => rfl

theorem exists_transition_place (session : Session) (handIndex slot : Nat) :
    ∃ answer later, Transition session (.place handIndex slot) answer later := by
  cases active : session.challenge? with
  | none => exact ⟨_, _, .refused (.inactive rfl active)⟩
  | some challenge =>
      cases held : session.hand[handIndex]? with
      | none => exact ⟨_, _, .refused (.noCard active held)⟩
      | some card =>
          cases cell : session.slots.cells[slot]? with
          | none => exact ⟨_, _, .refused (.noSlotToFill active held cell)⟩
          | some content =>
              cases content with
              | none => exact ⟨_, _, .placed active held cell⟩
              | some other => exact ⟨_, _, .refused (.slotFilled active held cell)⟩

theorem exists_transition_say (session : Session) (text : String) :
    ∃ answer later, Transition session (.say text) answer later := by
  cases read : session.catalog.cardsOf text with
  | error failure => exact ⟨_, _, .refused (.unreadable read)⟩
  | ok cards =>
      cases detected : detect cards with
      | none => exact ⟨_, _, .unrecognized read detected⟩
      | some pattern => exact ⟨_, _, .said read detected⟩

/-- No way is missing: an operation ends in one of them in every session. -/
theorem exists_transition (session : Session) (operation : Operation) :
    ∃ answer later, Transition session operation answer later := by
  cases operation with
  | startLesson lessonId =>
      cases found : session.curriculum.lesson? lessonId with
      | none => exact ⟨_, _, .refused (.unknownLesson found)⟩
      | some lesson =>
          cases listed : session.curriculum.challengesOf lessonId with
          | nil => exact ⟨_, _, .refused (.emptyLesson found listed)⟩
          | cons first rest => exact ⟨_, _, .lessonStarted found listed⟩
  | startFreeBuild pattern => exact ⟨_, _, .freeBuildStarted pattern⟩
  | place handIndex slot => exact exists_transition_place session handIndex slot
  | take slot =>
      cases cell : session.slots.cells[slot]? with
      | none => exact ⟨_, _, .refused (.noSlotToEmpty cell)⟩
      | some content =>
          cases content with
          | none => exact ⟨_, _, .refused (.nothingToTake cell)⟩
          | some card => exact ⟨_, _, .taken cell⟩
  | reset => exact ⟨_, _, .cleared⟩
  | hint =>
      cases active : session.challenge? with
      | none => exact ⟨_, _, .refused (.inactive rfl active)⟩
      | some challenge => exact ⟨_, _, .hinted active⟩
  | submit =>
      cases active : session.challenge? with
      | none => exact ⟨_, _, .refused (.inactive rfl active)⟩
      | some challenge =>
          cases ready : isReady challenge session.slots with
          | false => exact ⟨_, _, .refused (.incomplete active ready)⟩
          | true => exact ⟨_, _, .submitted active ready⟩
  | next =>
      cases active : session.challenge? with
      | none => exact ⟨_, _, .refused (.inactive rfl active)⟩
      | some challenge =>
          cases further : session.challenges[session.index + 1]? with
          | none => exact ⟨_, _, .atEnd active further⟩
          | some following => exact ⟨_, _, .advanced active further⟩
  | say text => exact exists_transition_say session text
  | setLog log => exact ⟨_, _, .logSet log⟩

theorem perform_transition (session : Session) (operation : Operation) :
    Transition session operation (session.perform operation).1
      (session.perform operation).2 := by
  obtain ⟨answer, later, transition⟩ := exists_transition session operation
  rw [transition.perform_eq]
  exact transition

end Session

end SentenceCards
