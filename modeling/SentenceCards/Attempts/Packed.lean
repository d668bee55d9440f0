import SentenceCards.Attempts.Log
import SentenceCards.Failure
import SentenceCards.MessagePack.Record
import SentenceCards.MessagePack.Writer

/-!
# Attempt logs as bytes

A log is stored in MessagePack, as records with named fields.
-/

namespace SentenceCards

open MessagePack (RecordFormat Value required)

namespace BuiltWord

def toPacked (built : BuiltWord) : Value :=
  .record [("word", .text built.word), ("word_type", .text built.category)]

/-- The fields of a card that have been read. -/
structure Draft where
  word : Option String := none
  category : Option String := none

/-- How a card is read. -/
def format : RecordFormat Draft BuiltWord where
  name := "BuiltWord"
  fields := [
    .of "word" .string (·.word) fun draft word => { draft with word := some word },
    .of "word_type" .string (·.category) fun draft category =>
      { draft with category := some category }]
  blank := {}
  finish draft := return ⟨← required "word" draft.word, ← required "word_type" draft.category⟩

end BuiltWord

namespace Attempt

def toPacked (attempt : Attempt) : Value :=
  .record [("challenge_id", .text attempt.challengeId),
    ("built", .array (attempt.built.map BuiltWord.toPacked)),
    ("is_correct", .bool attempt.correct)]

/-- The fields of an attempt that have been read. -/
structure Draft where
  challengeId : Option String := none
  built : Option (List BuiltWord) := none
  correct : Option Bool := none

/-- How an attempt is read. -/
def format : RecordFormat Draft Attempt where
  name := "AttemptRecord"
  fields := [
    .of "challenge_id" .string (·.challengeId) fun draft id =>
      { draft with challengeId := some id },
    .of "built" (.list BuiltWord.format.decoder) (·.built) fun draft built =>
      { draft with built := some built },
    .of "is_correct" .bool (·.correct) fun draft correct => { draft with correct := some correct }]
  blank := {}
  finish draft := return ⟨← required "challenge_id" draft.challengeId,
    ← required "built" draft.built, ← required "is_correct" draft.correct⟩

end Attempt

namespace LessonProgress

def toPacked (row : LessonProgress) : Value :=
  .record [("lesson_id", .text row.lessonId), ("module_id", .text row.moduleId),
    ("status", .text row.status.name), ("score", .natural row.score.toNat)]

/-- The fields of a row that have been read. -/
structure Draft where
  lessonId : Option String := none
  moduleId : Option String := none
  status : Option LessonStatus := none
  score : Option UInt32 := none

/-- How a row is read. -/
def format : RecordFormat Draft LessonProgress where
  name := "LessonProgress"
  fields := [
    .of "lesson_id" .string (·.lessonId) fun draft id => { draft with lessonId := some id },
    .of "module_id" .string (·.moduleId) fun draft id => { draft with moduleId := some id },
    .of "status" (.alternative LessonStatus.named) (·.status) fun draft status =>
      { draft with status := some status },
    .of "score" .word32 (·.score) fun draft score => { draft with score := some score }]
  blank := {}
  finish draft := return ⟨← required "lesson_id" draft.lessonId,
    ← required "module_id" draft.moduleId, ← required "status" draft.status,
    ← required "score" draft.score⟩

end LessonProgress

namespace AttemptLog

def toPacked (log : AttemptLog) : Value :=
  .record [("attempts", .array (log.attempts.map Attempt.toPacked)),
    ("progress", .array (log.progress.map LessonProgress.toPacked))]

/-- The fields of a log that have been read. -/
structure Draft where
  attempts : Option (List Attempt) := none
  progress : Option (List LessonProgress) := none

/-- How a log is read. -/
def format : RecordFormat Draft AttemptLog where
  name := "AttemptLog"
  fields := [
    .of "attempts" (.list Attempt.format.decoder) (·.attempts) fun draft attempts =>
      { draft with attempts := some attempts },
    .of "progress" (.list LessonProgress.format.decoder) (·.progress) fun draft progress =>
      { draft with progress := some progress }]
  blank := {}
  finish draft :=
    return ⟨← required "attempts" draft.attempts, ← required "progress" draft.progress⟩

/-- The bytes of a log. -/
def toBytes (log : AttemptLog) : Bytes := MessagePack.written log.toPacked

/-- The log at the front of some bytes.  What comes after it does not matter. -/
def ofBytes (bytes : Bytes) : Except Failure AttemptLog :=
  match (format.decoder.read MessagePack.depthLimit).run bytes with
  | .ok (log, _) => .ok log
  | .error fault => .error (Cause.undecodable fault.message).failure

end AttemptLog

end SentenceCards
