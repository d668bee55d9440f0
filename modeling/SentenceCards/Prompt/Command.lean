import SentenceCards.Session.Operation
import SentenceCards.Text.Numeral

/-!
# Commands

A line that begins with a colon is a command with its argument.  Any other line is a
sentence that the learner says.
-/

namespace SentenceCards

inductive Command where
  | help
  | lessons
  | hand
  /-- Something done in the session. -/
  | operate (operation : Operation)
  /-- Shows the last records of the trace. -/
  | listTrace
  | trace (order : Trace.Order)
  | save (path : String)
  | load (path : String)
  deriving DecidableEq, Inhabited

namespace Command

/-- An argument that may not be left out. -/
def required (argument form : String) : Except Failure String :=
  if argument.isEmpty then .error (Cause.wrongUsage form).failure else .ok argument

/-- A number among the arguments. -/
def number (argument : Option String) (form : String) : Except Failure Nat :=
  match argument.bind Text.readWord64? with
  | some n => .ok n
  | none => .error (Cause.wrongUsage form).failure

/-- What the argument of `:trace` asks for. -/
def traceCommand (argument : String) : Except Failure Command :=
  match argument with
  | "on" => .ok (.trace (.switch true))
  | "off" => .ok (.trace (.switch false))
  | "" | "show" => .ok .listTrace
  | "clear" => .ok (.trace .clear)
  | "json" => .ok (.trace (.format true))
  | "human" => .ok (.trace (.format false))
  | other =>
      .error (Cause.wrongUsage s!":trace on|off|show|clear|json|human (got {other})").failure

/-- The command with the given name and argument. -/
def named (name argument : String) : Except Failure Command :=
  match name with
  | ":help" | ":h" => .ok .help
  | ":lessons" => .ok .lessons
  | ":lesson" => return .operate (.startLesson (← required argument ":lesson ID"))
  | ":free" => do
      let pattern ← required argument ":free PATTERN"
      return .operate (.startFreeBuild (← Pattern.ofName pattern))
  | ":hand" => .ok .hand
  | ":place" => do
      let arguments := Text.wordsOf argument
      let handIndex ← number arguments[0]? ":place N SLOT"
      return .operate (.place handIndex (← number arguments[1]? ":place N SLOT"))
  | ":take" => return .operate (.take (← number (Text.wordsOf argument)[0]? ":take SLOT"))
  | ":hint" => .ok (.operate .hint)
  | ":submit" => .ok (.operate .submit)
  | ":next" => .ok (.operate .next)
  | ":reset" => .ok (.operate .reset)
  | ":say" => return .operate (.say (← required argument ":say SENTENCE"))
  | ":trace" => traceCommand argument
  | ":save" => return .save (← required argument ":save PATH")
  | ":load" => return .load (← required argument ":load PATH")
  | other => .error (Cause.unknownCommand other).failure

/-- The command on a line.  The name of a command ends at the first white space. -/
def read (line : String) : Except Failure Command :=
  let text := Text.trim line.toList
  if text.head? = some ':' then
    let (name, rest) := text.span (!Text.isBlank ·)
    named (String.ofList name) (String.ofList (Text.trim rest))
  else .ok (.operate (.say (String.ofList text)))

/-- Whether a line without white space around it ends the dialogue. -/
def isQuit (line : String) : Bool := line == ":quit" || line == ":q" || line == ":exit"

/-- The names of all commands, as they are suggested to the learner. -/
def names : List String :=
  [":help", ":lessons", ":lesson", ":free", ":hand", ":place", ":take", ":hint", ":submit",
    ":next", ":reset", ":say", ":trace", ":save", ":load", ":quit"]

end Command

end SentenceCards
