import SentenceCards.Files.Exchange

/-!
# Files with a clock

Any files can be given a clock that shows what one likes, so that the same exchange can be run on
the same files at different times.
-/

namespace SentenceCards

/-- Files beside a clock of which all readings are known. -/
structure Clocked (σ : Type) where
  files : σ
  /-- The readings to come, from the next one on. -/
  clock : Nat → Nat

namespace Clocked

variable {σ : Type} [Surroundings σ]

instance : Surroundings (Clocked σ) where
  read path surroundings :=
    let (answer, later) := Surroundings.read path surroundings.files
    (answer, { surroundings with files := later })
  write path bytes surroundings :=
    let (answer, later) := Surroundings.write path bytes surroundings.files
    (answer, { surroundings with files := later })
  time surroundings :=
    (surroundings.clock 0, { surroundings with clock := fun n => surroundings.clock (n + 1) })

variable (surroundings : Clocked σ)

@[simp] theorem read_eq (path : String) :
    Surroundings.read path surroundings =
      ((Surroundings.read path surroundings.files).1,
        { surroundings with files := (Surroundings.read path surroundings.files).2 }) := rfl

@[simp] theorem write_eq (path : String) (bytes : Bytes) :
    Surroundings.write path bytes surroundings =
      ((Surroundings.write path bytes surroundings.files).1,
        { surroundings with files := (Surroundings.write path bytes surroundings.files).2 }) := rfl

end Clocked

end SentenceCards
