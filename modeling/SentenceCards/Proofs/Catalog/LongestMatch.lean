import SentenceCards.Proofs.Catalog.Punctuation
import SentenceCards.Proofs.Catalog.Runs
import SentenceCards.Proofs.Text.Words

/-!
# Reading by longest matches

`ReadAs` says how a list of words is read without saying how far to look: at each point the longest
run of words that is written like a surface becomes one token.  Looking no further than the longest
surface of the catalog loses nothing, since a run has as many words as the surface that it matches.
So a text is read in this way and in no other (`read_eq_iff_longest`).
-/

namespace SentenceCards

/-- The surface is the words of the run with a space between neighbours. -/
def Word.Spells (word : Word) (run : List String) : Prop :=
  word.surface = " ".intercalate run

def Word.SpellsCaseless (word : Word) (run : List String) : Prop :=
  Text.lowercase word.surface = Text.lowercase (" ".intercalate run)

/-- The word is the first in the list that has the property. -/
def IsFirst (has : Word → Prop) (words : List Word) (word : Word) : Prop :=
  has word ∧ ∃ before after, words = before ++ word :: after ∧ ∀ other ∈ before, ¬ has other

theorem find?_eq_some_iff_isFirst {has : Word → Prop} {test : Word → Bool} {words : List Word}
    {word : Word} (tests : ∀ word, test word = true ↔ has word) :
    words.find? test = some word ↔ IsFirst has words word := by
  simp only [List.find?_eq_some_iff_append, IsFirst, tests, Bool.not_eq_true',
    ← Bool.not_eq_true]

namespace Catalog

section Reading

variable (catalog : Catalog)

/-- Some word of the catalog is written like the run, perhaps in another letter case. -/
def Matches (run : List String) : Prop :=
  ∃ word ∈ catalog.words, word.Spells run ∨ word.SpellsCaseless run

/-- The word that is taken for the run: the first one written exactly like it, or, if there is
none, the first one written like it but for letter case. -/
def Takes (run : List String) (word : Word) : Prop :=
  IsFirst (·.Spells run) catalog.words word ∨
    (∀ other ∈ catalog.words, ¬ other.Spells run) ∧
      IsFirst (·.SpellsCaseless run) catalog.words word

/-- The words are read as the tokens, each of which takes the longest run at its place. -/
inductive ReadAs : List String → List Token → Prop where
  | nil : ReadAs [] []
  | known {words run rest : List String} {word : Word} {tokens : List Token}
      (split : words = run ++ rest) (nonempty : run ≠ [])
      (longest : ∀ other, other <+: words → catalog.Matches other → other.length ≤ run.length)
      (takes : catalog.Takes run word) (later : ReadAs rest tokens) :
      ReadAs words (.known (.ofWord word) :: tokens)
  | unknown {word : String} {rest : List String} {tokens : List Token}
      (unmatched : ∀ run, run ≠ [] → run <+: word :: rest → ¬ catalog.Matches run)
      (later : ReadAs rest tokens) : ReadAs (word :: rest) (.unknown word :: tokens)

end Reading

variable {catalog : Catalog}

section Surfaces

variable {run : List String} {word : Word}

theorem bySurface?_eq_some_iff :
    catalog.bySurface? (" ".intercalate run) = some word ↔ catalog.Takes run word := by
  have exactly : ∀ other : Word, (other.surface == " ".intercalate run) = true ↔ other.Spells run :=
    fun _ => beq_iff_eq
  have caseless : ∀ other : Word,
      (Text.lowercase other.surface == Text.lowercase (" ".intercalate run)) = true ↔
        other.SpellsCaseless run := fun _ => beq_iff_eq
  rw [bySurface?, Option.or_eq_some_iff, find?_eq_some_iff_isFirst exactly, List.find?_eq_none,
    find?_eq_some_iff_isFirst caseless]
  simp only [exactly]
  rfl

theorem bySurface?_eq_none_iff :
    catalog.bySurface? (" ".intercalate run) = none ↔ ¬ catalog.Matches run := by
  rw [bySurface?, Option.or_eq_none_iff, List.find?_eq_none, List.find?_eq_none]
  simp only [beq_iff_eq, Matches, Word.Spells, Word.SpellsCaseless]
  grind

theorem Takes.matches (takes : catalog.Takes run word) : catalog.Matches run := by
  by_contra unmatched
  have absent := bySurface?_eq_none_iff.mpr unmatched
  rw [bySurface?_eq_some_iff.mpr takes] at absent
  cases absent

theorem Takes.unique {other : Word} (takes : catalog.Takes run word)
    (takesToo : catalog.Takes run other) : word = other :=
  Option.some.inj
    ((bySurface?_eq_some_iff.mpr takes).symm.trans (bySurface?_eq_some_iff.mpr takesToo))

end Surfaces

section Bound

theorem longestSurface_le_iff {bound : Nat} :
    catalog.longestSurface ≤ bound ↔
      ∀ word ∈ catalog.words, (Text.wordsOf word.surface).length ≤ bound :=
  catalog.surfaces_within bound

theorem length_le_longestSurface {word : Word} (listed : word ∈ catalog.words) :
    (Text.wordsOf word.surface).length ≤ catalog.longestSurface :=
  longestSurface_le_iff.mp (Nat.le_refl _) word listed

/-- A run has as many words as a surface that it matches. -/
theorem Matches.length_le {run : List String} (areWords : ∀ word ∈ run, Text.IsWord word.toList)
    (matched : catalog.Matches run) : run.length ≤ catalog.longestSurface := by
  obtain ⟨word, listed, written⟩ := matched
  have caseless : word.SpellsCaseless run := written.elim (congrArg Text.lowercase) id
  calc
    run.length = (Text.wordsOf (" ".intercalate run)).length := by rw [Text.wordsOf_joined areWords]
    _ = (Text.wordsOf word.surface).length := by
      rw [← Text.length_wordsOf_lowercase, ← caseless, Text.length_wordsOf_lowercase]
    _ ≤ catalog.longestSurface := length_le_longestSurface listed

/-- Beyond the longest run found, or at all if none is found, no run within the limit matches. -/
theorem bySurface?_eq_none_of_longestRun? {words : List String} {limit length : Nat}
    (beyond : ((catalog.longestRun? words limit).map Prod.fst).getD 0 < length)
    (inLimit : length ≤ limit) :
    catalog.bySurface? (" ".intercalate (words.take length)) = none := by
  induction limit with
  | zero => omega
  | succ limit ih =>
      unfold longestRun? at beyond
      split at beyond
      next word found =>
        simp only [Option.map_some, Option.getD_some] at beyond
        omega
      next absent =>
        rcases Nat.lt_or_eq_of_le inLimit with shorter | rfl
        · exact ih beyond (by omega)
        · exact absent

theorem length_le_of_matches {words other : List String}
    (areWords : ∀ word ∈ words, Text.IsWord word.toList) (isPrefix : other <+: words)
    (matched : catalog.Matches other) :
    other.length ≤
      ((catalog.longestRun? words (min catalog.longestSurface words.length)).map Prod.fst).getD
        0 := by
  by_contra shorter
  have bounded : other.length ≤ catalog.longestSurface :=
    matched.length_le fun word member => areWords word (isPrefix.subset member)
  have absent := bySurface?_eq_none_of_longestRun? (Nat.lt_of_not_le shorter)
    (Nat.le_min.mpr ⟨bounded, isPrefix.length_le⟩)
  rw [← List.prefix_iff_eq_take.mp isPrefix] at absent
  exact bySurface?_eq_none_iff.mp absent matched

end Bound

theorem readAs_readWords {words : List String}
    (areWords : ∀ word ∈ words, Text.IsWord word.toList) :
    catalog.ReadAs words (catalog.readWords catalog.longestSurface words) := by
  fun_induction readWords catalog catalog.longestSurface words with
  | case1 => exact .nil
  | case2 word rest count found finds ih =>
      obtain ⟨positive, written⟩ := bySurface?_of_longestRun? finds
      have longest : ∀ other, other <+: word :: rest → catalog.Matches other →
          other.length ≤ count := by
        intro other isPrefix matched
        have bounded := length_le_of_matches areWords isPrefix matched
        rwa [List.length_cons, finds] at bounded
      obtain ⟨count, rfl⟩ := Nat.exists_eq_succ_of_ne_zero (Nat.pos_iff_ne_zero.mp positive)
      have split : word :: rest = (word :: rest.take count) ++ rest.drop count := by simp
      refine .known split (List.cons_ne_nil _ _) ?_ (bySurface?_eq_some_iff.mp written) ?_
      · intro other isPrefix matched
        have bounded := longest other isPrefix matched
        have inside := isPrefix.length_le
        simp only [List.length_cons, List.length_take] at inside ⊢
        omega
      · exact ih fun other member =>
          areWords other (List.mem_cons_of_mem word (List.mem_of_mem_drop member))
  | case3 word rest finds ih =>
      refine .unknown ?_ (ih fun other member => areWords other (List.mem_cons_of_mem word member))
      intro run nonempty isPrefix matched
      have bounded := length_le_of_matches areWords isPrefix matched
      rw [List.length_cons, finds] at bounded
      exact nonempty (List.length_eq_zero_iff.mp (Nat.le_zero.mp bounded))

/-- There is one way to read words by longest matches. -/
theorem ReadAs.unique {words : List String} {tokens others : List Token}
    (reads : catalog.ReadAs words tokens) (readsToo : catalog.ReadAs words others) :
    tokens = others := by
  induction reads generalizing others with
  | nil =>
      cases readsToo with
      | nil => rfl
      | known split nonempty => exact absurd (List.append_eq_nil_iff.mp split.symm).1 nonempty
  | @known words run rest word tokens split nonempty longest takes later ih =>
      cases readsToo with
      | nil => exact absurd (List.append_eq_nil_iff.mp split.symm).1 nonempty
      | @known _ otherRun otherRest other others otherSplit otherNonempty otherLongest takesToo
          laterToo =>
          have isPrefix : run <+: words := ⟨rest, split.symm⟩
          have otherPrefix : otherRun <+: words := ⟨otherRest, otherSplit.symm⟩
          have sameLength : run.length = otherRun.length :=
            Nat.le_antisymm (otherLongest run isPrefix takes.matches)
              (longest otherRun otherPrefix takesToo.matches)
          obtain ⟨rfl, rfl⟩ := List.append_inj (split.symm.trans otherSplit) sameLength
          rw [takes.unique takesToo, ih laterToo]
      | unknown unmatched =>
          exact absurd takes.matches (unmatched run nonempty ⟨rest, split.symm⟩)
  | unknown unmatched later ih =>
      cases readsToo with
      | @known _ run rest _ _ split nonempty _ takes =>
          exact absurd takes.matches (unmatched run nonempty ⟨rest, split.symm⟩)
      | unknown _ laterToo => rw [ih laterToo]

/-- The tokens of a text are its words, without the punctuation at their ends and without those of
which nothing is left, read by longest matches in the only way there is. -/
theorem read_eq_iff_longest (catalog : Catalog) (text : String) (tokens : List Token) :
    let bare := (Text.words text.toList).map (List.rdropWhile (· ∈ ['.', ',', '!', '?']))
    catalog.read text = tokens ↔
      catalog.ReadAs ((bare.filter (· ≠ [])).map String.ofList) tokens := by
  intro bare
  rw [← bareWords_eq]
  have reads : catalog.ReadAs (bareWords text) (catalog.read text) :=
    readAs_readWords fun _ => isWord_of_mem_bareWords
  constructor
  · rintro rfl
    exact reads
  · exact reads.unique

end Catalog

end SentenceCards
