import SentenceCards.Attempts.Packed
import SentenceCards.Files.Exchange

/-!
# Saved attempt logs

An attempt log is saved in a file and loaded again.
-/

namespace SentenceCards.AttemptLog

/-- Writes the log into a file. -/
def save (log : AttemptLog) (path : String) : Exchange (Except Failure Unit) := do
  match ← Exchange.ofWrite path log.toBytes with
  | .ok () => return .ok ()
  | .error (.creating reason) =>
      return .error (Cause.fileTrouble s!"failed to create file '{path}': {reason}").failure
  | .error (.writing reason) =>
      return .error (Cause.fileTrouble s!"failed to write to file '{path}': {reason}").failure

/-- Reads a log from a file. -/
def load (path : String) : Exchange (Except Failure AttemptLog) := do
  match ← Exchange.ofRead path with
  | .ok bytes => return ofBytes bytes
  | .error (.opening reason) =>
      return .error (Cause.fileTrouble s!"failed to open file '{path}': {reason}").failure
  | .error (.reading reason) =>
      return .error (Cause.fileTrouble s!"failed to read file '{path}': {reason}").failure

end SentenceCards.AttemptLog
