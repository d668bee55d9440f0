import Mathlib.Tactic.SplitIfs
import SentenceCards.Files.Folder

/-!
# Reading what was written

A path under which a file could be written names the same file for a reader, in whatever folder
that holds it.
-/

namespace SentenceCards

namespace Folder

theorem file?_put (folder : Folder) (name : String) (bytes : Bytes) :
    (folder.put name bytes).file? name = some bytes :=
  List.lookup_cons_self

/-- A path that can be written is not closed by a slash, so it does not matter what it is wanted
for. -/
theorem destinationOf_reading {folder other : Folder} {closed inside : Bool} {names : List String}
    {name : String} (named : folder.destinationOf .writing closed inside names = .file name) :
    other.destinationOf .reading closed inside names = .file name := by
  induction names generalizing inside with
  | nil => simp [destinationOf] at named
  | cons first rest ih =>
      unfold destinationOf at named ⊢
      split_ifs at named ⊢ with here up closing
      · exact ih named
      · exact ih named
      -- Only a writer asks whether the last name is closed by a slash.
      · simp at closing
      · exact named

theorem destination_reading {folder other : Folder} {path name : String}
    (named : folder.destination .writing path = .file name) :
    other.destination .reading path = .file name := by
  unfold destination at named ⊢
  split_ifs at named ⊢ with null empty long
  exact destinationOf_reading named

theorem read_put {folder : Folder} {path name : String}
    (named : folder.destination .writing path = .file name) (bytes : Bytes) :
    (folder.put name bytes).read path = .ok bytes := by
  have same : (folder.put name bytes).destination .reading path = .file name :=
    destination_reading named
  simp only [read, same, file?_put]

theorem read_write {folder : Folder} {path : String} {bytes : Bytes}
    (succeeded : (folder.write path bytes).1 = .ok ()) :
    (folder.write path bytes).2.read path = .ok bytes := by
  unfold write at succeeded ⊢
  cases named : folder.destination .writing path with
  | file name => exact read_put named bytes
  | folder => simp [named] at succeeded
  | blocked obstacle => simp [named] at succeeded

end Folder

end SentenceCards
