import SentenceCards.Bytes

/-!
# Exchanges with files and the clock

A computation that may read and write files and look at the clock is a tree of questions: each
node asks for one of these and goes on with the answer.  What the answers are is for the
surroundings to say, so the same tree can be run on surroundings that are plain values.
-/

namespace SentenceCards

/-- Why a file could not be read. -/
inductive ReadTrouble where
  /-- It could not be opened. -/
  | opening (reason : String)
  /-- It was opened and then could not be read. -/
  | reading (reason : String)
  deriving DecidableEq, Inhabited

/-- The reason that the system gives. -/
def ReadTrouble.reason : ReadTrouble → String
  | .opening reason => reason
  | .reading reason => reason

/-- Why a file could not be written. -/
inductive WriteTrouble where
  /-- It could not be made. -/
  | creating (reason : String)
  /-- It was made and then could not be written. -/
  | writing (reason : String)
  deriving DecidableEq, Inhabited

/-- A computation with a result in `α` that may read and write files and look at the clock. -/
inductive Exchange (α : Type) where
  | done (result : α)
  /-- Asks for the bytes of a file. -/
  | read (path : String) (next : Except ReadTrouble Bytes → Exchange α)
  /-- Makes a file with the given bytes, in place of any other one there. -/
  | write (path : String) (bytes : Bytes) (next : Except WriteTrouble Unit → Exchange α)
  /-- Asks how many nanoseconds have gone by since the beginning. -/
  | time (next : Nat → Exchange α)

/-- What answers the questions of an exchange, and may be another one afterwards. -/
class Surroundings (σ : Type) where
  read : (path : String) → σ → Except ReadTrouble Bytes × σ
  write : (path : String) → (bytes : Bytes) → σ → Except WriteTrouble Unit × σ
  time : σ → Nat × σ

namespace Exchange

variable {α β : Type}

/-- Goes on with the result of an exchange. -/
def bind : Exchange α → (α → Exchange β) → Exchange β
  | done result, continuation => continuation result
  | read path next, continuation => read path fun answer => (next answer).bind continuation
  | write path bytes next, continuation =>
      write path bytes fun answer => (next answer).bind continuation
  | time next, continuation => time fun now => (next now).bind continuation

instance : Monad Exchange where
  pure := done
  bind := bind

/-- Reads one file. -/
def ofRead (path : String) : Exchange (Except ReadTrouble Bytes) := read path done

/-- Writes one file. -/
def ofWrite (path : String) (bytes : Bytes) : Exchange (Except WriteTrouble Unit) :=
  write path bytes done

section Run

variable {σ : Type} [Surroundings σ]

/-- Runs an exchange amid surroundings that answer it. -/
def run (surroundings : σ) : Exchange α → α × σ
  | done result => (result, surroundings)
  | read path next =>
      let (answer, later) := Surroundings.read path surroundings
      (next answer).run later
  | write path bytes next =>
      let (answer, later) := Surroundings.write path bytes surroundings
      (next answer).run later
  | time next =>
      let (now, later) := Surroundings.time surroundings
      (next now).run later

variable (surroundings : σ)

@[simp] theorem run_pure (result : α) :
    (pure result : Exchange α).run surroundings = (result, surroundings) := rfl

@[simp] theorem run_ofRead (path : String) :
    (ofRead path).run surroundings = Surroundings.read path surroundings := rfl

@[simp] theorem run_ofWrite (path : String) (bytes : Bytes) :
    (ofWrite path bytes).run surroundings = Surroundings.write path bytes surroundings := rfl

/-- Running two exchanges one after the other passes the surroundings on. -/
theorem run_bind (exchange : Exchange α) (next : α → Exchange β) :
    (exchange.bind next).run surroundings =
      (next (exchange.run surroundings).1).run (exchange.run surroundings).2 := by
  induction exchange generalizing surroundings with
  | done result => rfl
  | read path continuation ih => exact ih _ _
  | write path bytes continuation ih => exact ih _ _
  | time continuation ih => exact ih _ _

@[simp] theorem run_then (exchange : Exchange α) (next : α → Exchange β) :
    (exchange >>= next).run surroundings =
      (next (exchange.run surroundings).1).run (exchange.run surroundings).2 :=
  run_bind surroundings exchange next

end Run

end Exchange

end SentenceCards
