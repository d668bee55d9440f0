import SentenceCards.Attempts.Log

/-!
# Progress in one lesson

Noting progress in a lesson changes what the log says of this lesson and of no other one: the
points are the larger ones, and a completed lesson stays completed (`pointsIn_advance`,
`isCompletedIn_advance`).
-/

namespace SentenceCards.AttemptLog

/-- The points that the log has for a lesson, none if there is no row. -/
def pointsIn (log : AttemptLog) (lessonId : String) : Nat :=
  (log.progressIn? lessonId).elim 0 fun row => row.score.toNat

/-- Whether the log says that a lesson has been completed. -/
def isCompletedIn (log : AttemptLog) (lessonId : String) : Bool :=
  (log.progressIn? lessonId).any fun row => row.status == .completed

theorem exists_row_of_isCompletedIn {log : AttemptLog} {lessonId : String}
    (completed : log.isCompletedIn lessonId = true) :
    ∃ row, log.progressIn? lessonId = some row ∧ row.status = .completed ∧
      row.score.toNat = log.pointsIn lessonId := by
  cases found : log.progressIn? lessonId with
  | none => simp [isCompletedIn, found] at completed
  | some row =>
      refine ⟨row, rfl, ?_, ?_⟩
      · simpa [isCompletedIn, found] using completed
      · simp [pointsIn, found]

@[simp] theorem attempts_advance (log : AttemptLog) (lessonId moduleId : String)
    (status : LessonStatus) (score : UInt32) :
    (log.advance lessonId moduleId status score).attempts = log.attempts := rfl

@[simp] theorem progressIn?_record (log : AttemptLog) (challengeId : String) (cards : List Card)
    (correct : Bool) (lessonId : String) :
    (log.record challengeId cards correct).progressIn? lessonId = log.progressIn? lessonId := rfl

@[simp] theorem pointsIn_record (log : AttemptLog) (challengeId : String) (cards : List Card)
    (correct : Bool) (lessonId : String) :
    (log.record challengeId cards correct).pointsIn lessonId = log.pointsIn lessonId := rfl

@[simp] theorem isCompletedIn_record (log : AttemptLog) (challengeId : String)
    (cards : List Card) (correct : Bool) (lessonId : String) :
    (log.record challengeId cards correct).isCompletedIn lessonId =
      log.isCompletedIn lessonId := rfl

theorem find?_advanceRow (lessonId moduleId : String) (status : LessonStatus) (score : UInt32)
    (rows : List LessonProgress) (other : String) :
    (advanceRow lessonId moduleId status score rows).find? (·.lessonId == other) =
      if other = lessonId then
        some (((rows.find? (·.lessonId == lessonId)).map (·.advance status score)).getD
          ⟨lessonId, moduleId, status, score⟩)
      else rows.find? (·.lessonId == other) := by
  induction rows with
  | nil =>
      by_cases same : other = lessonId
      · simp [advanceRow, same]
      · simp [advanceRow, same, Ne.symm same]
  | cons row rest ih =>
      by_cases here : row.lessonId = lessonId
      · by_cases same : other = lessonId
        · simp [advanceRow, here, same, LessonProgress.advance]
        · simp [advanceRow, here, same, LessonProgress.advance, Ne.symm same]
      · by_cases same : other = lessonId
        · simp [advanceRow, here, same] at ih ⊢
          exact ih
        · by_cases found : row.lessonId = other
          · simp [advanceRow, same, found]
          · simp [advanceRow, here, same, found] at ih ⊢
            exact ih

/-- The row of the lesson is advanced, or added; the other lessons keep theirs. -/
theorem progressIn?_advance (log : AttemptLog) (lessonId moduleId : String)
    (status : LessonStatus) (score : UInt32) (other : String) :
    (log.advance lessonId moduleId status score).progressIn? other =
      if other = lessonId then
        some (((log.progressIn? lessonId).map (·.advance status score)).getD
          ⟨lessonId, moduleId, status, score⟩)
      else log.progressIn? other :=
  find?_advanceRow lessonId moduleId status score log.progress other

theorem toNat_max (first second : UInt32) :
    (max first second).toNat = max first.toNat second.toNat := by
  have unfolded : max first second = if first ≤ second then second else first := rfl
  rw [unfolded]
  split
  case isTrue smaller => exact (Nat.max_eq_right (UInt32.le_iff_toNat_le.mp smaller)).symm
  case isFalse larger =>
      have below : second.toNat ≤ first.toNat := by
        rw [UInt32.le_iff_toNat_le] at larger
        omega
      exact (Nat.max_eq_left below).symm

theorem isSome_progressIn?_advance (log : AttemptLog) (lessonId moduleId : String)
    (status : LessonStatus) (score : UInt32) (other : String) :
    ((log.advance lessonId moduleId status score).progressIn? other).isSome =
      (decide (other = lessonId) || (log.progressIn? other).isSome) := by
  rw [progressIn?_advance]
  by_cases same : other = lessonId <;> simp [same]

theorem pointsIn_advance (log : AttemptLog) (lessonId moduleId : String)
    (status : LessonStatus) (score : UInt32) (other : String) :
    (log.advance lessonId moduleId status score).pointsIn other =
      if other = lessonId then max (log.pointsIn lessonId) score.toNat
      else log.pointsIn other := by
  unfold pointsIn
  rw [progressIn?_advance]
  by_cases same : other = lessonId
  · cases found : log.progressIn? lessonId with
    | none => simp [same]
    | some row => simp [same, LessonProgress.advance, toNat_max]
  · simp [same]

theorem isCompletedIn_advance (log : AttemptLog) (lessonId moduleId : String)
    (status : LessonStatus) (score : UInt32) (other : String) :
    (log.advance lessonId moduleId status score).isCompletedIn other =
      if other = lessonId then log.isCompletedIn lessonId || status == .completed
      else log.isCompletedIn other := by
  unfold isCompletedIn
  rw [progressIn?_advance]
  by_cases same : other = lessonId
  · cases found : log.progressIn? lessonId with
    | none => simp [same]
    | some row =>
        by_cases completed : row.status = .completed
        · simp [same, LessonProgress.advance, completed]
        · simp [same, LessonProgress.advance, completed]
  · simp [same]

end SentenceCards.AttemptLog
