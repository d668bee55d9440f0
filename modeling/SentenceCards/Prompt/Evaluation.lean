import SentenceCards.Attempts.Saved
import SentenceCards.Prompt.Command
import SentenceCards.Prompt.View

/-!
# Evaluating commands

A command changes the session and gives a text to show, or it fails.
-/

namespace SentenceCards

/-- What evaluating a line comes to. -/
structure Evaluated where
  /-- The text to show, or why there is none. -/
  result : Except Failure String
  /-- The session afterwards. -/
  session : Session

namespace Session

/-- The text shown for a session that has come about. -/
def shows (session : Session) (text : String) : Evaluated := ⟨.ok text, session⟩

/-- A failure that leaves the session as it is. -/
def fails (session : Session) (failure : Failure) : Evaluated := ⟨.error failure, session⟩

/-- Carries out an operation. -/
def evaluateOperation (session : Session) (operation : Operation) : Evaluated :=
  let (answer, later) := session.perform operation
  ⟨answer.map (View.answer later), later⟩

/-- Shows the challenge if there is an active one. -/
def evaluateHand (session : Session) : Evaluated :=
  let (challenge, later) := active.on session
  ⟨challenge.map fun _ => View.challenge later, later⟩

/-- The number of records that are listed. -/
def listedRecords : Nat := 20

/-- The last records of the trace. -/
def listedTrace (session : Session) : String :=
  if session.recorder.window.records.isEmpty then "(no trace records)"
  else session.recorder.shownRecent listedRecords

/-- Saves the attempt log. -/
def evaluateSave (session : Session) (path : String) : Exchange Evaluated := do
  match ← session.log.save path with
  | .ok () => return session.shows s!"Saved {session.log.attempts.length} attempts to {path}"
  | .error failure => return session.fails failure

/-- Loads an attempt log in place of the one at hand. -/
def evaluateLoad (session : Session) (path : String) : Exchange Evaluated := do
  match ← AttemptLog.load path with
  | .ok log =>
      return (session.withLog log).shows s!"Loaded {log.attempts.length} attempts from {path}"
  | .error failure => return session.fails failure

/-- Evaluates a command. -/
def evaluate (session : Session) : Command → Exchange Evaluated
  | .help => return session.shows View.help
  | .lessons => return session.shows (View.lessons session)
  | .hand => return session.evaluateHand
  | .operate operation => return session.evaluateOperation operation
  | .listTrace => return session.shows session.listedTrace
  | .trace order => return (session.orderTrace order).shows (View.obeyed order)
  | .save path => session.evaluateSave path
  | .load path => session.evaluateLoad path

/-- Evaluates a line. -/
def evaluateLine (session : Session) (line : String) : Exchange Evaluated :=
  match Command.read line with
  | .ok command => session.evaluate command
  | .error failure => return session.fails failure

/-- Looks at the clock and evaluates a line at that time. -/
def evaluateNow (session : Session) (line : String) : Exchange Evaluated :=
  .time fun now => (session.atTime now).evaluateLine line

end Session

end SentenceCards
