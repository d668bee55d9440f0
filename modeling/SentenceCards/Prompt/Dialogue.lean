import SentenceCards.Prompt.Evaluation
import SentenceCards.Text.Backspace
import SentenceCards.Text.Lines

/-!
# Dialogues

In a dialogue the learner types one line after another, and each one is answered before
the next one is read.
-/

namespace SentenceCards

/-- Lines written to the standard output and to the standard error. -/
structure Printed where
  out : List String
  err : List String
  deriving DecidableEq, Inhabited

namespace Printed

def nothing : Printed := ⟨[], []⟩

/-- What is written first, and then what is written after it. -/
def append (first second : Printed) : Printed := ⟨first.out ++ second.out, first.err ++ second.err⟩

instance : Append Printed := ⟨append⟩

/-- The line that reports a failure. -/
def errorLine (message : String) : String := inStyle Colour.red.code ("Error: " ++ message)

/-- A failure reported to the standard error. -/
def ofError (message : String) : Printed := ⟨[], [errorLine message]⟩

/-- A text on the standard output, unless it is empty. -/
def ofText (text : String) : Printed := ⟨if text.isEmpty then [] else [text], []⟩

end Printed

/-- What comes of asking the learner for a line. -/
inductive Input where
  | line (text : String)
  /-- The learner gives the line up. -/
  | interrupt
  /-- No line could be read. -/
  | trouble (text : String)
  deriving DecidableEq, Inhabited

/-- How an input, or the lack of one, is answered. -/
structure Reply where
  printed : Printed
  /-- The session afterwards. -/
  session : Session
  /-- The line to be remembered in the history. -/
  remembered : Option String
  /-- Whether the dialogue is over. -/
  ended : Bool

namespace Dialogue

/-- What is shown while the learner is asked for a line. -/
def prompt : String := "tereo> "

/-- What is shown at the beginning. -/
def banner : List String := [
  "\x1b[1;36m",
  "  _____       ____            ",
  " |_   _|__   |  _ \\ ___  ___  ",
  "   | |/ _ \\  | |_) / _ \\/ _ \\ ",
  "   | |  __/  |  _ <  __/ (_) |",
  "   |_|\\___|  |_| \\_\\___|\\___/ ",
  "\x1b[0m",
  "Kia ora! tereo v0.1.0",
  "Type :lessons to begin, :help for commands. Use Ctrl+D to exit.",
  ""]

/-- What is shown at the end. -/
def farewell : List String := ["", "Ka kite anō!"]

/-- The texts that a session has written for its trace, and the session without them. -/
def collectTrace (session : Session) : Printed × Session :=
  let (echoed, recorder) := session.recorder.collect
  (⟨[], echoed⟩, { session with recorder := recorder })

/-- What an evaluated line writes: the records of the trace as they are made, then the text or
the failure. -/
def written (evaluated : Evaluated) : Printed × Session :=
  let (trace, session) := collectTrace evaluated.session
  match evaluated.result with
  | .ok text => (trace ++ .ofText text, session)
  | .error failure => (trace ++ .ofError failure.message, session)

/-- Answers an input; without one the dialogue is over. -/
def respond (session : Session) : Option Input → Exchange Reply
  | none => return ⟨⟨farewell, []⟩, session, none, true⟩
  | some .interrupt => return ⟨⟨[""], []⟩, session, none, false⟩
  | some (.trouble text) =>
      return ⟨.ofError (Cause.internal text).message, session, none, false⟩
  | some (.line text) =>
      let line := Text.trimmed text
      if line.isEmpty then return ⟨.nothing, session, none, false⟩
      else if Command.isQuit line then return ⟨⟨farewell, []⟩, session, some text, true⟩
      else
        (session.evaluateNow line).bind fun evaluated =>
          let (printed, session) := written evaluated
          .done ⟨printed, session, some text, false⟩

/-- The other side of a dialogue, with the means to carry it on. -/
structure Partner (m : Type → Type) where
  /-- Asks for an input; there is none at the end. -/
  ask : m (Option Input)
  /-- Carries out what it takes to answer. -/
  carryOut : Exchange Reply → m Reply
  /-- Gives a reply. -/
  tell : Reply → m Unit

/-- Carries on a dialogue until it is over, or for `limit` inputs, and gives the session
afterwards. -/
@[specialize] def converse {m : Type → Type} [Monad m] (partner : Partner m) :
    (limit : Nat) → Session → m Session
  | 0, session => return session
  | limit + 1, session => do
      let reply ← partner.carryOut (respond session (← partner.ask))
      partner.tell reply
      if reply.ended then return reply.session else converse partner limit reply.session

/-- What has been said in a dialogue of which all inputs are known. -/
structure Protocol where
  /-- The inputs to come. -/
  inputs : List Input
  /-- The replies so far. -/
  replies : List Reply

/-- The partner who gives the inputs one after the other. -/
def Protocol.partner : Partner (StateT Protocol Exchange) where
  ask := modifyGet fun told => (told.inputs.head?, { told with inputs := told.inputs.tail })
  carryOut exchange := liftM exchange
  tell reply := modify fun told => { told with replies := told.replies ++ [reply] }

/-- What a dialogue comes to. -/
structure Course where
  printed : Printed
  /-- The session afterwards. -/
  session : Session
  /-- The lines remembered, oldest first. -/
  history : List String
  /-- How often the learner was asked for a line. -/
  asked : Nat

/-- The course of a dialogue with these replies that leaves the session. -/
def Course.ofReplies (replies : List Reply) (session : Session) : Course where
  printed := ⟨replies.flatMap (·.printed.out), replies.flatMap (·.printed.err)⟩
  session := session
  history := replies.filterMap Reply.remembered
  asked := replies.length

/-- Carries on a dialogue until it is over or there is no more input. -/
def run (session : Session) (inputs : List Input) : Exchange Course := do
  let (session, told) ←
    (converse Protocol.partner (inputs.length + 1) session).run ⟨inputs, []⟩
  return .ofReplies told.replies session

/-- The inputs in a text that was not typed at a terminal. -/
def inputsOf (text : String) : List Input :=
  (Text.linesOf text).map fun line => .line (String.ofList (Text.takeBack line.toList))

end Dialogue

end SentenceCards
