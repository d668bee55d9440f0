import Mathlib.Data.List.Induction
import SentenceCards.Proofs.Catalog.LongestMatch

/-!
# The index of a catalog

A catalog is built word by word, and a word whose id is taken leaves no trace.  So the list has the
first word of every id, the index says where these stand, and the longest surface is that of a
listed word (`Catalog.indexed_as_listed`).
-/

namespace SentenceCards.Catalog

/-- The words of a list whose ids no words before them have. -/
def firstOfIds (words : List Word) : List Word :=
  (words.zipIdx.filter fun (word, place) =>
    (words.take place).all (·.id != word.id)).map Prod.fst

theorem firstOfIds_append (words : List Word) (word : Word) :
    firstOfIds (words ++ [word]) =
      firstOfIds words ++ if words.all (·.id != word.id) then [word] else [] := by
  have before : (words.zipIdx.filter fun (listed, place) =>
      ((words ++ [word]).take place).all (·.id != listed.id)) =
        words.zipIdx.filter fun (listed, place) =>
          (words.take place).all (·.id != listed.id) := by
    refine List.filter_congr ?_
    rintro ⟨listed, place⟩ member
    have inside : place ≤ words.length := by
      have bounds := List.mem_zipIdx member
      omega
    simp only [List.take_append_of_le_length inside]
  rw [firstOfIds, List.zipIdx_append, List.filter_append, List.map_append, before]
  congr 1
  by_cases fresh : words.all (·.id != word.id) = true <;> simp [fresh]

variable {catalog : Catalog}

theorem isSome_lookup_places (id : String) :
    (catalog.places.lookup id).isSome = (catalog.word? id).isSome := by
  rw [catalog.lookup_places, word?_eq_find?, List.findIdx?_isSome, Bool.eq_iff_iff,
    List.find?_isSome, List.any_eq_true]

theorem words_add (catalog : Catalog) (word : Word) :
    (catalog.add word).words =
      if (catalog.word? word.id).isSome then catalog.words else catalog.words ++ [word] := by
  rw [← isSome_lookup_places, add]
  split
  · next taken => simp [taken]
  · next taken => simp [taken]

theorem word?_add (catalog : Catalog) (word : Word) (id : String) :
    (catalog.add word).word? id = (catalog.word? id).or ([word].find? (·.id == id)) := by
  rw [word?_eq_find?, words_add]
  cases taken : catalog.word? word.id with
  | none =>
      rw [if_neg (by simp), List.find?_append, word?_eq_find?]
  | some held =>
      rw [if_pos (by simp), ← word?_eq_find?]
      by_cases same : word.id = id
      · subst same
        rw [taken, Option.some_or]
      · simp [same]

theorem ofWords_append (words : List Word) (word : Word) :
    ofWords (words ++ [word]) = (ofWords words).add word := by
  rw [ofWords, List.foldl_append]
  rfl

theorem word?_ofWords (words : List Word) (id : String) :
    (ofWords words).word? id = words.find? (·.id == id) := by
  induction words using List.reverseRecOn with
  | nil => rfl
  | append_singleton words word ih => rw [ofWords_append, word?_add, ih, List.find?_append]

theorem words_ofWords (words : List Word) : (ofWords words).words = firstOfIds words := by
  induction words using List.reverseRecOn with
  | nil => rfl
  | append_singleton words word ih =>
      rw [ofWords_append, words_add, word?_ofWords, ih, firstOfIds_append]
      cases taken : words.find? (·.id == word.id) with
      | none =>
          have fresh : words.all (·.id != word.id) = true := by
            simpa using List.find?_eq_none.mp taken
          simp [fresh]
      | some held =>
          have present : words.all (·.id != word.id) = false := by
            rw [List.all_eq_false]
            exact ⟨held, List.mem_of_find?_eq_some taken, by simpa using List.find?_some taken⟩
          simp [present]

/-- The index gives the place of the word with an id, and no other place. -/
theorem lookup_places_eq_some_iff {id : String} {place : Nat} :
    catalog.places.lookup id = some place ↔
      ∃ word, catalog.words[place]? = some word ∧ word.id = id := by
  rw [catalog.lookup_places]
  constructor
  · intro found
    obtain ⟨inside, same, _⟩ := List.findIdx?_eq_some_iff_getElem.mp found
    exact ⟨_, List.getElem?_eq_getElem inside, beq_iff_eq.mp same⟩
  · rintro ⟨word, here, rfl⟩
    exact findIdx?_of_getElem? catalog.ids_nodup here

theorem exists_longest (listed : catalog.words ≠ []) :
    ∃ word ∈ catalog.words, (Text.wordsOf word.surface).length = catalog.longestSurface := by
  by_contra! shorter
  have below : ∀ word ∈ catalog.words,
      (Text.wordsOf word.surface).length ≤ catalog.longestSurface - 1 := by
    intro word member
    have bound := length_le_longestSurface member
    have apart := shorter word member
    omega
  -- With surfaces that are all shorter, a smaller bound would do.
  have smaller := longestSurface_le_iff.mpr below
  obtain ⟨word, member⟩ := List.exists_mem_of_ne_nil _ listed
  have apart := shorter word member
  have bound := below word member
  omega

/-- Of the given words a catalog lists the first one of every id, in the order in which they are
given.  Its index finds them where they stand, and the longest surface is as long as the surface of
a listed word. -/
theorem indexed_as_listed (words : List Word) :
    let catalog := ofWords words
    catalog.words = firstOfIds words ∧
      (catalog.words.map Word.id).Nodup ∧
      (∀ id place, catalog.places.lookup id = some place ↔
        ∃ word, catalog.words[place]? = some word ∧ word.id = id) ∧
      (∀ id, catalog.word? id = words.find? (·.id == id)) ∧
      (∀ id, catalog.word? id = none ↔ ∀ word ∈ words, word.id ≠ id) ∧
      (∀ word ∈ catalog.words, catalog.word? word.id = some word) ∧
      (∀ word ∈ catalog.words,
        (Text.wordsOf word.surface).length ≤ catalog.longestSurface) ∧
      (catalog.words ≠ [] → ∃ word ∈ catalog.words,
        (Text.wordsOf word.surface).length = catalog.longestSurface) := by
  intro catalog
  refine ⟨words_ofWords words, catalog.ids_nodup, fun _ _ => lookup_places_eq_some_iff,
    word?_ofWords words, ?_, fun _ => word?_of_mem,
    fun _ => length_le_longestSurface, exists_longest⟩
  intro id
  rw [word?_ofWords, List.find?_eq_none]
  simp

/-- Of two words with one id the longer one comes too late, and spaces are not counted as words. -/
theorem indexed_as_listed_repeated :
    let waka : Word := ⟨"n_waka", "waka", "canoe", .noun, .blue, 1, "", none, none⟩
    let tamaki : Word :=
      ⟨"n_tamaki", " Tāmaki  Makaurau ", "Auckland", .noun, .blue, 2, "", none, none⟩
    let late : Word := { waka with surface := "waka ama nui" }
    let catalog := ofWords [waka, late, tamaki]
    catalog.words = [waka, tamaki] ∧
      (tamaki ∈ catalog.words ∧ catalog.word? "n_tamaki" = some tamaki) ∧
      ((∀ word ∈ [waka, late, tamaki], word.id ≠ "n_whare") ∧ catalog.word? "n_whare" = none) ∧
      (catalog.words ≠ [] ∧ ∃ word ∈ catalog.words,
        (Text.wordsOf word.surface).length = catalog.longestSurface) ∧
      catalog.longestSurface = 2 := by
  intro waka tamaki late catalog
  obtain ⟨listed, -, -, -, absent, found, -, longest⟩ := indexed_as_listed [waka, late, tamaki]
  have words : catalog.words = [waka, tamaki] := listed.trans (by decide)
  have member : tamaki ∈ catalog.words := by simp [words]
  have nonempty : catalog.words ≠ [] := by simp [words]
  have unknown : ∀ word ∈ [waka, late, tamaki], word.id ≠ "n_whare" := by decide
  exact ⟨words, ⟨member, found tamaki member⟩, ⟨unknown, (absent "n_whare").mpr unknown⟩,
    ⟨nonempty, longest nonempty⟩, by decide +kernel⟩

end SentenceCards.Catalog
