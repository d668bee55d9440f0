import SentenceCards.Catalog.Reading
import SentenceCards.Proofs.Keys

/-!
# The runs of words that tokens are read from

Reading a text cuts its words into runs, one for each token.  `Catalog.readRuns` keeps the run
beside the token: the runs put together are the words (`flatten_runs`), and a known token is
the card of a catalog word that its run spells, if letter case is left aside
(`reading_of_mem_runs`).
-/

namespace SentenceCards.Catalog

/-- The tokens of a list of words, each with the run of words that it is read from. -/
def readRuns (catalog : Catalog) (longest : Nat) : List String → List (List String × Token)
  | [] => []
  | word :: rest =>
      match catalog.longestRun? (word :: rest) (min longest (rest.length + 1)) with
      | some (count, found) =>
          (word :: rest.take (count - 1), .known (.ofWord found)) ::
            readRuns catalog longest (rest.drop (count - 1))
      | none => ([word], .unknown word) :: readRuns catalog longest rest
  termination_by words => words.length
  decreasing_by all_goals simp only [List.length_drop, List.length_cons]; omega

def runs (catalog : Catalog) (text : String) : List (List String × Token) :=
  catalog.readRuns catalog.longestSurface (bareWords text)

variable {catalog : Catalog}

theorem word?_of_mem {word : Word} (listed : word ∈ catalog.words) :
    catalog.word? word.id = some word :=
  (catalog.word?_eq_find? word.id).trans (find?_of_mem catalog.ids_nodup listed)

theorem word?_eq_some_iff {id : String} {word : Word} :
    catalog.word? id = some word ↔ word ∈ catalog.words ∧ word.id = id := by
  constructor
  · intro found
    rw [word?_eq_find?] at found
    exact ⟨List.mem_of_find?_eq_some found, by simpa using List.find?_some found⟩
  · rintro ⟨listed, rfl⟩
    exact word?_of_mem listed

theorem word?_eq_none_iff {id : String} :
    catalog.word? id = none ↔ ∀ word ∈ catalog.words, word.id ≠ id := by
  rw [word?_eq_find?, List.find?_eq_none]
  simp

/-- A word that is found is listed, and it is written so but for letter case. -/
theorem reading_of_bySurface? {surface : String} {found : Word}
    (finds : catalog.bySurface? surface = some found) :
    found ∈ catalog.words ∧ Text.lowercase found.surface = Text.lowercase surface := by
  unfold bySurface? at finds
  cases exactly : catalog.words.find? (·.surface == surface) with
  | some word =>
      obtain rfl : word = found := by simpa [exactly] using finds
      have written : word.surface = surface := by simpa using List.find?_some exactly
      exact ⟨List.mem_of_find?_eq_some exactly, congrArg Text.lowercase written⟩
  | none =>
      have finds : catalog.words.find? (Text.lowercase ·.surface == Text.lowercase surface) =
          some found := by simpa [exactly] using finds
      have written := List.find?_some finds
      exact ⟨List.mem_of_find?_eq_some finds, by simpa using written⟩

theorem bySurface?_of_longestRun? {words : List String} {limit count : Nat} {found : Word}
    (finds : catalog.longestRun? words limit = some (count, found)) :
    0 < count ∧ catalog.bySurface? (" ".intercalate (words.take count)) = some found := by
  induction limit with
  | zero => cases finds
  | succ limit ih =>
      unfold longestRun? at finds
      split at finds
      next word longest =>
        obtain ⟨rfl, rfl⟩ := Prod.mk.inj (Option.some.inj finds)
        exact ⟨Nat.succ_pos limit, longest⟩
      next => exact ih finds

theorem map_snd_readRuns (longest : Nat) (words : List String) :
    (catalog.readRuns longest words).map Prod.snd = catalog.readWords longest words := by
  fun_induction readRuns catalog longest words with
  | case1 => simp [readWords]
  | case2 word rest count found finds ih => rw [readWords, finds, List.map_cons, ih]
  | case3 word rest finds ih => rw [readWords, finds, List.map_cons, ih]

theorem flatten_readRuns (longest : Nat) (words : List String) :
    ((catalog.readRuns longest words).map Prod.fst).flatten = words := by
  fun_induction readRuns catalog longest words with
  | case1 => rfl
  | case2 word rest count found finds ih => simp [ih]
  | case3 word rest finds ih => simp [ih]

theorem known_of_mem_readRuns {longest : Nat} {words run : List String} {card : Card}
    (member : (run, .known card) ∈ catalog.readRuns longest words) :
    ∃ found, card = .ofWord found ∧ catalog.bySurface? (" ".intercalate run) = some found := by
  fun_induction readRuns catalog longest words with
  | case1 => cases member
  | case2 word rest count found finds ih =>
      rcases List.mem_cons.mp member with here | later
      · obtain ⟨rfl, same⟩ := Prod.mk.inj here
        obtain ⟨positive, written⟩ := bySurface?_of_longestRun? finds
        obtain ⟨count, rfl⟩ := Nat.exists_eq_succ_of_ne_zero (Nat.pos_iff_ne_zero.mp positive)
        exact ⟨found, Token.known.inj same, written⟩
      · exact ih later
  | case3 word rest finds ih =>
      rcases List.mem_cons.mp member with here | later
      · cases here
      · exact ih later

/-- An unknown token is the only word of its run. -/
theorem unknown_of_mem_readRuns {longest : Nat} {words run : List String} {unread : String}
    (member : (run, .unknown unread) ∈ catalog.readRuns longest words) : run = [unread] := by
  fun_induction readRuns catalog longest words with
  | case1 => cases member
  | case2 word rest count found finds ih =>
      rcases List.mem_cons.mp member with here | later
      · cases here
      · exact ih later
  | case3 word rest finds ih =>
      rcases List.mem_cons.mp member with here | later
      · obtain ⟨rfl, same⟩ := Prod.mk.inj here
        rw [Token.unknown.inj same]
      · exact ih later

theorem nonempty_of_mem_readRuns {longest : Nat} {words : List String}
    {piece : List String × Token} (member : piece ∈ catalog.readRuns longest words) :
    piece.1 ≠ [] := by
  fun_induction readRuns catalog longest words with
  | case1 => cases member
  | case2 word rest count found finds ih =>
      rcases List.mem_cons.mp member with rfl | later
      · exact List.cons_ne_nil _ _
      · exact ih later
  | case3 word rest finds ih =>
      rcases List.mem_cons.mp member with rfl | later
      · exact List.cons_ne_nil _ _
      · exact ih later

theorem map_snd_runs (catalog : Catalog) (text : String) :
    (catalog.runs text).map Prod.snd = catalog.read text := map_snd_readRuns _ _

theorem flatten_runs (catalog : Catalog) (text : String) :
    ((catalog.runs text).map Prod.fst).flatten = bareWords text := flatten_readRuns _ _

/-- A known token is the card of a word that its run spells but for letter case. -/
theorem reading_of_mem_runs {text : String} {run : List String} {card : Card}
    (member : (run, .known card) ∈ catalog.runs text) :
    catalog.card card.id = .ok card ∧
      Text.lowercase card.surface = Text.lowercase (" ".intercalate run) := by
  obtain ⟨found, rfl, finds⟩ := known_of_mem_readRuns member
  obtain ⟨listed, spelled⟩ := reading_of_bySurface? finds
  refine ⟨?_, spelled⟩
  have same : catalog.word? (Card.ofWord found).id = some found := word?_of_mem listed
  rw [Catalog.card, same]

end SentenceCards.Catalog
