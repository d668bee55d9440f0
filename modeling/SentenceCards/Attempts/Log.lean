import SentenceCards.Card

/-!
# The attempt log

Every submitted sentence, oldest first, and how far each lesson has come.
-/

namespace SentenceCards

/-- A card of a submitted sentence. -/
structure BuiltWord where
  word : String
  /-- The name of the category. -/
  category : String
  deriving DecidableEq, Inhabited

def BuiltWord.ofCard (card : Card) : BuiltWord := ⟨card.surface, card.category.name⟩

/-- A submitted sentence. -/
structure Attempt where
  challengeId : String
  built : List BuiltWord
  correct : Bool
  deriving DecidableEq, Inhabited

/-- How far a lesson has come. -/
inductive LessonStatus where
  | inProgress
  /-- The last challenge has been answered correctly. -/
  | completed
  deriving DecidableEq, Inhabited

/-- The name under which a status is stored. -/
def LessonStatus.name : LessonStatus → String
  | .inProgress => "in_progress"
  | .completed => "completed"

/-- The statuses in order, each with its name. -/
def LessonStatus.named : List (String × LessonStatus) :=
  [.inProgress, .completed].map fun status => (status.name, status)

/-- The status with a name. -/
def LessonStatus.ofName? (name : String) : Option LessonStatus := named.lookup name

/-- Progress in one lesson. -/
structure LessonProgress where
  lessonId : String
  moduleId : String
  status : LessonStatus
  score : UInt32
  deriving DecidableEq, Inhabited

/-- A completed lesson stays completed, and the score only grows. -/
def LessonProgress.advance (row : LessonProgress) (status : LessonStatus) (score : UInt32) :
    LessonProgress :=
  { row with
    status := if row.status = .completed then .completed else status
    score := max row.score score }

structure AttemptLog where
  attempts : List Attempt
  progress : List LessonProgress
  deriving DecidableEq, Inhabited

namespace AttemptLog

def empty : AttemptLog := ⟨[], []⟩

/-- Adds an attempt. -/
def record (log : AttemptLog) (challengeId : String) (cards : List Card) (correct : Bool) :
    AttemptLog :=
  { log with attempts := log.attempts ++ [⟨challengeId, cards.map .ofCard, correct⟩] }

/-- The attempts at one challenge. -/
def attemptsAt (log : AttemptLog) (challengeId : String) : List Attempt :=
  log.attempts.filter (·.challengeId == challengeId)

/-- Advances the first row of a lesson, or adds a row at the end. -/
def advanceRow (lessonId moduleId : String) (status : LessonStatus) (score : UInt32) :
    List LessonProgress → List LessonProgress
  | [] => [⟨lessonId, moduleId, status, score⟩]
  | row :: rest =>
      if row.lessonId = lessonId then row.advance status score :: rest
      else row :: advanceRow lessonId moduleId status score rest

/-- Notes progress in a lesson. -/
def advance (log : AttemptLog) (lessonId moduleId : String) (status : LessonStatus)
    (score : UInt32) : AttemptLog :=
  { log with progress := advanceRow lessonId moduleId status score log.progress }

/-- The progress in a lesson. -/
def progressIn? (log : AttemptLog) (lessonId : String) : Option LessonProgress :=
  log.progress.find? (·.lessonId == lessonId)

/-- The number of correct attempts. -/
def correctCount (log : AttemptLog) : Nat := log.attempts.countP (·.correct)

/-- The part of the attempts that is correct, if there are any. -/
def accuracy? (log : AttemptLog) : Option Float :=
  if log.attempts.isEmpty then none
  else some (log.correctCount.toFloat / log.attempts.length.toFloat)

end AttemptLog

end SentenceCards
