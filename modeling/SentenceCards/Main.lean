import SentenceCards.CommandLine.Launch

/-!
# The program

Carries out what has been decided elsewhere: reads and writes the files that are asked
for, writes what is to be printed, and reads the lines of the learner.
-/

namespace SentenceCards

/-- How the system words an error. -/
def systemReason : IO.Error → String
  | .noFileOrDirectory _ code details | .inappropriateType _ code details
  | .permissionDenied _ code details | .invalidArgument _ code details
  | .resourceExhausted _ code details | .noSuchThing _ code details
  | .alreadyExists _ code details => s!"{details} (os error {code})"
  | .otherError code details | .resourceBusy code details
  | .unsatisfiedConstraints code details | .illegalOperation code details
  | .hardwareFault code details | .unsupportedOperation code details =>
      s!"{details} (os error {code})"
  | other => other.toString

/-- Reads a file. -/
def readFile (path : String) : IO (Except ReadTrouble Bytes) := do
  match ← (IO.FS.Handle.mk path .read).toBaseIO with
  | .error error => return .error (.opening (systemReason error))
  | .ok handle =>
      match ← handle.readBinToEnd.toBaseIO with
      | .error error => return .error (.reading (systemReason error))
      | .ok bytes => return .ok bytes.data.toList

/-- Writes a file. -/
def writeFile (path : String) (bytes : Bytes) : IO (Except WriteTrouble Unit) := do
  match ← (IO.FS.Handle.mk path .write).toBaseIO with
  | .error error => return .error (.creating (systemReason error))
  | .ok handle =>
      match ← (do handle.write bytes.toByteArray; handle.flush : IO Unit).toBaseIO with
      | .error error => return .error (.writing (systemReason error))
      | .ok () => return .ok ()

/-- Runs an exchange on the files and the clock of the system. -/
def Exchange.perform {α : Type} (beginning : Nat) : Exchange α → IO α
  | .done result => return result
  | .read path next => do (next (← readFile path)).perform beginning
  | .write path bytes next => do (next (← writeFile path bytes)).perform beginning
  | .time next => do (next ((← IO.monoNanosNow) - beginning)).perform beginning

/-- Writes lines to the standard output and the standard error. -/
def Printed.perform (printed : Printed) : IO Unit := do
  printed.err.forM IO.eprintln
  printed.out.forM IO.println
  (← IO.getStdout).flush

/-- Asks the learner for a line; there is none at the end of the input. -/
def ask : IO (Option Input) := do
  let input ← IO.getStdin
  if ← input.isTty then
    IO.print Dialogue.prompt
    (← IO.getStdout).flush
  match ← input.getLine.toBaseIO with
  | .error error => return some (.trouble (systemReason error))
  | .ok text =>
      if text.isEmpty then return none
      else return (Dialogue.inputsOf text).head?

/-- The learner at the terminal. -/
def learner (beginning : Nat) : Dialogue.Partner IO where
  ask := ask
  carryOut exchange := exchange.perform beginning
  tell reply := reply.printed.perform

/-- More inputs than anyone can give. -/
def endless : Nat := 1 <<< 62

end SentenceCards

open SentenceCards

def main (arguments : List String) : IO UInt32 := do
  let beginning ← IO.monoNanosNow
  match ← (CommandLine.launch arguments).perform beginning with
  | .over printed succeeded =>
      printed.perform
      return if succeeded then 0 else 1
  | .dialogue printed session =>
      printed.perform
      let _ ← Dialogue.converse (learner beginning) endless session
      return 0
