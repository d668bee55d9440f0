import SentenceCards.Catalog.Reading
import SentenceCards.Session.Entering

/-!
# Checking a sentence

A sentence built in the slots is submitted to the active challenge.  A correct one earns
points, every submitted one is logged, and the last challenge answered correctly
completes the lesson.  A sentence can also be said, apart from any challenge.
-/

namespace SentenceCards

/-- What came of submitting a sentence. -/
structure Submission where
  verdict : Verdict
  points : UInt32
  /-- Whether the lesson is now completed. -/
  lessonComplete : Bool
  deriving DecidableEq, Inhabited

/-- The points for a correct sentence. -/
def pointsPerSentence : UInt32 := 10

namespace Session

/-- Whether the sentence can be submitted: all slots are filled, or, for a challenge that says
nothing about places, no card stands after an empty slot. -/
def isReady (challenge : Challenge) (slots : Slots) : Bool :=
  if challenge.places.isEmpty then slots.leading.length == slots.placed.length
  else slots.isComplete

/-- The sentence to submit. -/
def readySentence (challenge : Challenge) (slots : Slots) : Except Failure (List Card) :=
  if isReady challenge slots then .ok slots.leading
  else .error ((Cause.incompleteSentence slots.emptyCount).during challenge.id "submit")

/-- Adds points to the score of the session and to that of the lesson. -/
def earn (session : Session) (points : UInt32) : Session :=
  { session with
    score := session.score + points
    lessonScore := session.lessonScore + points }

/-- Adds an attempt to the log, and says so in the trace. -/
def recordAttempt (session : Session) (challengeId : String) (cards : List Card)
    (correct : Bool) : Session :=
  { session with
    log := session.log.record challengeId cards correct
    recorder := session.recorder.record (.attemptRecorded challengeId correct) }

/-- Whether the active challenge is the last one. -/
def atLast (session : Session) : Bool := session.index + 1 == session.challenges.length

/-- Notes the progress in the lesson that was started. -/
def noteProgress (session : Session) (completed : Bool) : Session :=
  match session.lessonId.bind session.curriculum.lesson? with
  | none => session
  | some lesson =>
      let status := if completed then LessonStatus.completed else .inProgress
      { session with
        log := session.log.advance lesson.id lesson.moduleId status session.lessonScore }

/-- Begins a new attempt in the trace. -/
def nextAttempt (session : Session) : Session :=
  { session with recorder := session.recorder.nextAttempt }

/-- Judges a sentence, and says so in the trace. -/
def judge (pattern : Pattern) (cards : List Card) (target : Option Target) : Action Verdict := do
  let session ← get
  let (verdict, recorder) := session.recorder.judge pattern session.style cards target
  modify fun session => { session with recorder := recorder }
  return verdict

/-- Looks for the pattern of a sentence, and says in the trace which one was found. -/
def detected (cards : List Card) : Action (Option Pattern) := do
  let (pattern, recorder) := (← get).recorder.detect cards
  modify fun session => { session with recorder := recorder }
  return pattern

/-- Judges the sentence in the slots. -/
def submit : Action Submission := do
  let challenge ← active
  let cards ← ofExcept (readySentence challenge (← get).slots)
  modify nextAttempt
  let verdict ← judge challenge.pattern cards challenge.target
  let points := if verdict.correct then pointsPerSentence else 0
  modify (·.earn points)
  modify (·.recordAttempt challenge.id cards verdict.correct)
  let session ← get
  let complete := verdict.correct && session.atLast && session.lessonId.isSome
  modify (·.noteProgress complete)
  return ⟨verdict, points, complete⟩

/-- Judges a text by the pattern that it looks like.  If all its words are known, this is a new
attempt in the trace, even if no pattern is found. -/
def say (text : String) : Action (Pattern × Verdict) := do
  let cards ← ofExcept ((← get).catalog.cardsOf text)
  modify nextAttempt
  match ← detected cards with
  | none => throw (Cause.unknownPattern (sentence cards)).failure
  | some pattern => return (pattern, ← judge pattern cards none)

end Session

end SentenceCards
