import SentenceCards.Session.Action

/-!
# Going from challenge to challenge

A lesson is started with its first challenge and gone through in order.  The challenge that is
entered becomes the active one, and its hand is dealt.
-/

namespace SentenceCards.Session

/-- The active challenge, or a failure that says that there is none. -/
def active : Action Challenge := do
  match (← get).challenge? with
  | some challenge => return challenge
  | none => throw Cause.noActiveChallenge.failure

/-- Enters the challenge at a position. -/
def goTo (index : Nat) : Action Challenge := do
  match (← get).challenges[index]? with
  | some challenge =>
      modify (·.enter index challenge)
      return challenge
  | none => throw Cause.noActiveChallenge.failure

/-- Takes up a lesson, before its first challenge is entered. -/
def takeUp (session : Session) (lesson : Lesson) (challenges : List Challenge) : Session :=
  { session with
    lessonId := some lesson.id
    challenges := challenges
    lessonScore := 0
    log := session.log.advance lesson.id lesson.moduleId .inProgress 0 }

/-- Starts a lesson with its first challenge. -/
def startLesson (lessonId : String) : Action Challenge := do
  let curriculum := (← get).curriculum
  match curriculum.lesson? lessonId with
  | none => throw (Cause.lessonNotFound lessonId).failure
  | some lesson =>
      let challenges := curriculum.challengesOf lessonId
      if challenges.isEmpty then
        throw ((Cause.challengeNotFound lessonId).during lessonId "start_lesson")
      modify (·.takeUp lesson challenges)
      goTo 0

/-- Goes on to the next challenge.  After the last one there is none, and nothing changes. -/
def next : Action (Option Challenge) := do
  let _ ← active
  let session ← get
  if session.index + 1 ≥ session.challenges.length then return none
  else return some (← goTo (session.index + 1))

end SentenceCards.Session
