import SentenceCards.Text.Clusters

/-!
# Backspaces

A backspace takes back the grapheme cluster before it.  The clusters are those of the whole
line: what a backspace uncovers is not joined to what follows it.  A line without backspaces stays
as it is (`takeBack_eq_self`).
-/

namespace SentenceCards.Text

/-- The text without its last `count` bytes in UTF-8.  It is given backwards. -/
def dropBytes : (count : Nat) → List Char → List Char
  | 0, text => text
  | _ + 1, [] => []
  | count + 1, c :: text => dropBytes (count + 1 - c.utf8Size) text

/-- What is left of a line while its clusters are gone through. -/
structure TakingBack where
  /-- The characters that are left, last one first. -/
  text : List Char
  /-- The sizes of the clusters that can be taken back, last one first. -/
  sizes : List Nat
  deriving DecidableEq, Inhabited

namespace TakingBack

/-- The number of bytes of a cluster in UTF-8, of which only the lowest byte is remembered. -/
def sizeOf (cluster : List Char) : Nat := cluster.foldl (fun size c => size + c.utf8Size) 0 % 256

/-- Goes on with a cluster. -/
def step (state : TakingBack) (cluster : List Char) : TakingBack :=
  if cluster = ['\x08'] then
    match state.sizes with
    | [] => state
    | size :: sizes => ⟨dropBytes size state.text, sizes⟩
  else ⟨cluster.reverse ++ state.text, sizeOf cluster :: state.sizes⟩

end TakingBack

/-- The characters that are left of a line after each backspace has taken back the cluster
before it. -/
def takeBack (line : List Char) : List Char :=
  ((clusters line).foldl TakingBack.step ⟨[], []⟩).text.reverse

theorem TakingBack.foldl_step_text (pieces : List (List Char)) (state : TakingBack)
    (typed : ['\x08'] ∉ pieces) :
    (pieces.foldl step state).text = pieces.flatten.reverse ++ state.text := by
  induction pieces generalizing state with
  | nil => rfl
  | cons piece pieces ih =>
      have isTyped : piece ≠ ['\x08'] := fun equal => typed (by simp [equal])
      have areTyped : ['\x08'] ∉ pieces := fun member => typed (List.mem_cons_of_mem _ member)
      rw [List.foldl_cons, ih _ areTyped]
      simp [step, isTyped]

/-- Without a backspace nothing is taken back. -/
theorem takeBack_eq_self {line : List Char} (typed : '\x08' ∉ line) : takeBack line = line := by
  have isTyped : ['\x08'] ∉ clusters line := fun member => typed (by
    rw [← flatten_clusters line]
    exact List.mem_flatten.mpr ⟨_, member, List.mem_singleton_self _⟩)
  simp [takeBack, TakingBack.foldl_step_text _ _ isTyped, flatten_clusters]

end SentenceCards.Text
