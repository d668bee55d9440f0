import SentenceCards.Prompt.Evaluation
import SentenceCards.Text.Lines

/-!
# Scripts

A script is a file of lines.  They are evaluated in order up to a line that ends the
dialogue, or to the first one that fails.
-/

namespace SentenceCards

/-- What running a script comes to. -/
structure ScriptRun where
  /-- The texts shown, in order. -/
  shown : List String
  /-- The session afterwards. -/
  session : Session
  /-- Why the script could not be run to its end. -/
  failure : Option Failure

/-- Adds a text to the front of what has been shown, unless it is empty. -/
def ScriptRun.push (run : ScriptRun) (text : String) : ScriptRun :=
  { run with shown := if text.isEmpty then run.shown else text :: run.shown }

namespace Script

/-- Whether a line without white space around it is passed over. -/
def isPassedOver (line : String) : Bool := line.isEmpty || line.toList.head? == some '#'

/-- Runs lines, of which the first one has the given number. -/
def runLines (path : String) : (lines : List String) → (number : Nat) → Session →
    Exchange ScriptRun
  | [], _, session => return ⟨[], session, none⟩
  | line :: rest, number, session =>
      let line := Text.trimmed line
      if isPassedOver line then runLines path rest (number + 1) session
      else if Command.isQuit line then return ⟨[], session, none⟩
      else
        (session.evaluateNow line).bind fun evaluated =>
          match evaluated.result with
          | .ok text =>
              (runLines path rest (number + 1) evaluated.session).bind fun run =>
                .done (run.push text)
          | .error failure =>
              .done ⟨[], evaluated.session, some (failure.during s!"{path}:{number}" line)⟩

/-- The failure to read a script. -/
def unreadable (path reason : String) : Failure :=
  (Cause.fileTrouble s!"failed to read {path}: {reason}").failure

/-- Runs the script in a file. -/
def run (path : String) (session : Session) : Exchange ScriptRun :=
  (Exchange.ofRead path).bind fun answer =>
    match answer with
    | .error trouble => .done ⟨[], session, some (unreadable path trouble.reason)⟩
    | .ok bytes =>
        match bytes.text? with
        | none => .done ⟨[], session, some (unreadable path "stream did not contain valid UTF-8")⟩
        | some text => runLines path (Text.linesOf text) 1 session

end Script

end SentenceCards
