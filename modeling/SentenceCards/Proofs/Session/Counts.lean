import SentenceCards.Proofs.Session.History

/-!
# What a history says

Submissions, starts of lessons and exchanges of the log are read off the steps of a run.  Each
count is given for a run and for the run with one more step.
-/

namespace SentenceCards.Session

namespace Step

/-- What came of a submission that was accepted for judging. -/
def submission? (step : Step) : Option Submission :=
  match step.answer with
  | .ok (.submission submission) => some submission
  | _ => none

def isCorrect (step : Step) : Bool := step.submission?.any (·.verdict.correct)

/-- The attempt that a submission amounts to, with the surface and the category of each card. -/
def attempt? (step : Step) : Option Attempt :=
  step.submission?.map fun submission =>
    { challengeId := step.before.challenge?.elim "" Challenge.id
      built := step.before.built.map fun card => ⟨card.surface, card.category.name⟩
      correct := submission.verdict.correct }

def starts (lessonId : String) (step : Step) : Bool :=
  step.operation == .startLesson lessonId && step.answer.isOk

def submitsUnder (lessonId : String) (step : Step) : Bool :=
  step.submission?.isSome && step.before.lessonId == some lessonId

/-- Whether the step counts for the progress in the lesson. -/
def concerns (lessonId : String) (step : Step) : Bool :=
  step.starts lessonId || step.submitsUnder lessonId

def completes (lessonId : String) (step : Step) : Bool :=
  step.submitsUnder lessonId && step.submission?.any (·.lessonComplete)

def log? (step : Step) : Option AttemptLog :=
  match step.operation with
  | .setLog log => some log
  | _ => none

end Step

/-- The log that was put in place last, the empty one if none was. -/
def baseLog (steps : List Step) : AttemptLog := (steps.filterMap Step.log?).getLast?.getD .empty

/-- The steps since a log was put in place. -/
def sinceLog (steps : List Step) : List Step := steps.rtakeWhile (·.log?.isNone)

/-- The steps up to the one that put the last log in place. -/
def untilLog (steps : List Step) : List Step := steps.rdropWhile (·.log?.isNone)

def correctCount (steps : List Step) : Nat := steps.countP Step.isCorrect

/-- The number of correct submissions since the lesson was last started. -/
def correctSinceStart (lessonId : String) (steps : List Step) : Nat :=
  correctCount (steps.rtakeWhile fun step => !step.starts lessonId)

/-- The points since the last start of the lesson, at each step of `later` that counts for it;
`earlier` went before. -/
def pointsReached (lessonId : String) : (earlier later : List Step) → List Nat
  | _, [] => []
  | earlier, step :: later =>
      let reached := earlier ++ [step]
      if step.concerns lessonId then
        10 * correctSinceStart lessonId reached :: pointsReached lessonId reached later
      else pointsReached lessonId reached later

section Further

variable {steps : List Step} {step : Step}

theorem baseLog_concat_of_none (kept : step.log? = none) :
    baseLog (steps ++ [step]) = baseLog steps := by
  simp [baseLog, kept]

theorem baseLog_concat_of_some {log : AttemptLog} (put : step.log? = some log) :
    baseLog (steps ++ [step]) = log := by
  simp [baseLog, put]

theorem sinceLog_concat_of_none (kept : step.log? = none) :
    sinceLog (steps ++ [step]) = sinceLog steps ++ [step] :=
  List.rtakeWhile_concat_pos _ _ _ (by simp [kept])

theorem sinceLog_concat_of_some {log : AttemptLog} (put : step.log? = some log) :
    sinceLog (steps ++ [step]) = [] :=
  List.rtakeWhile_concat_neg _ _ _ (by simp [put])

theorem untilLog_concat_of_none (kept : step.log? = none) :
    untilLog (steps ++ [step]) = untilLog steps :=
  List.rdropWhile_concat_pos _ _ _ (by simp [kept])

theorem untilLog_append_sinceLog (steps : List Step) : untilLog steps ++ sinceLog steps = steps :=
  List.rdropWhile_append_rtakeWhile

theorem correctCount_concat (steps : List Step) (step : Step) :
    correctCount (steps ++ [step]) = correctCount steps + if step.isCorrect then 1 else 0 := by
  simp [correctCount, List.countP_cons]

theorem correctSinceStart_concat_of_starts {lessonId : String}
    (started : step.starts lessonId = true) :
    correctSinceStart lessonId (steps ++ [step]) = 0 := by
  have cut := List.rtakeWhile_concat_neg (fun step => !step.starts lessonId) steps step
    (by simp [started])
  simp [correctSinceStart, cut, correctCount]

theorem correctSinceStart_concat {lessonId : String} (going : step.starts lessonId = false) :
    correctSinceStart lessonId (steps ++ [step]) =
      correctSinceStart lessonId steps + if step.isCorrect then 1 else 0 := by
  have longer := List.rtakeWhile_concat_pos (fun step => !step.starts lessonId) steps step
    (by simp [going])
  simp only [correctSinceStart, longer, correctCount_concat]

theorem correctSinceStart_le (lessonId : String) (steps : List Step) :
    correctSinceStart lessonId steps ≤ correctCount steps :=
  (List.rtakeWhile_suffix _ _).sublist.countP_le

theorem pointsReached_concat (lessonId : String) (earlier later : List Step) (step : Step) :
    pointsReached lessonId earlier (later ++ [step]) =
      pointsReached lessonId earlier later ++
        if step.concerns lessonId then
          [10 * correctSinceStart lessonId (earlier ++ later ++ [step])]
        else [] := by
  induction later generalizing earlier with
  | nil => by_cases counts : step.concerns lessonId <;> simp [pointsReached, counts]
  | cons first rest ih =>
      by_cases counts : first.concerns lessonId
      · simp [pointsReached, counts, ih]
      · simp [pointsReached, counts, ih]

end Further

end SentenceCards.Session
