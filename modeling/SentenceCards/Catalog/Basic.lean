import SentenceCards.Card
import SentenceCards.Failure
import SentenceCards.Text.Blank
import SentenceCards.Text.Lowercase
import SentenceCards.Vocabulary.Standard

/-!
# Catalogs

A catalog lists words, each id once, and finds them by id and by surface.
-/

namespace SentenceCards

/-- A list of words in which no id occurs twice, with an index of their ids. -/
structure Catalog where
  words : List Word
  /-- Where the word with an id stands in the list. -/
  places : List (String × Nat)
  /-- The number of words that the longest surface is written with. -/
  longestSurface : Nat
  ids_nodup : (words.map Word.id).Nodup
  lookup_places : ∀ id, places.lookup id = words.findIdx? (·.id == id)
  surfaces_within : ∀ bound, longestSurface ≤ bound ↔
    ∀ word ∈ words, (Text.wordsOf word.surface).length ≤ bound

namespace Catalog

/-- The catalog without words. -/
def empty : Catalog where
  words := []
  places := []
  longestSurface := 0
  ids_nodup := List.nodup_nil
  lookup_places := fun _ => rfl
  surfaces_within := by simp

instance : Inhabited Catalog := ⟨empty⟩

theorem ids_nodup_append {words : List Word} {word : Word} (known : (words.map Word.id).Nodup)
    (fresh : words.findIdx? (·.id == word.id) = none) :
    ((words ++ [word]).map Word.id).Nodup := by
  rw [List.map_append, List.nodup_append]
  refine ⟨known, by simp, ?_⟩
  intro id member other isNew same
  obtain ⟨held, inside, rfl⟩ := List.mem_map.mp member
  have apart := List.findIdx?_eq_none_iff.mp fresh held inside
  simp only [List.map_cons, List.map_nil, List.mem_singleton] at isNew
  simp [same, isNew] at apart

theorem lookup_places_append {words : List Word} {places : List (String × Nat)}
    (known : ∀ id, places.lookup id = words.findIdx? (·.id == id)) (word : Word) (id : String) :
    (places ++ [(word.id, words.length)]).lookup id =
      (words ++ [word]).findIdx? (·.id == id) := by
  rw [List.lookup_append, List.findIdx?_append, List.findIdx?_singleton, known]
  by_cases same : word.id = id
  · simp [same]
  · simp [List.lookup_cons, same, beq_eq_false_iff_ne.mpr (Ne.symm same)]

/-- Adds a word, unless its id is taken. -/
def add (catalog : Catalog) (word : Word) : Catalog :=
  match taken : catalog.places.lookup word.id with
  | some _ => catalog
  | none =>
      { words := catalog.words ++ [word]
        places := catalog.places ++ [(word.id, catalog.words.length)]
        longestSurface := max catalog.longestSurface (Text.wordsOf word.surface).length
        ids_nodup :=
          ids_nodup_append catalog.ids_nodup ((catalog.lookup_places _).symm.trans taken)
        lookup_places := lookup_places_append catalog.lookup_places word
        surfaces_within := by
          intro bound
          rw [Nat.max_le, catalog.surfaces_within, List.forall_mem_append,
            List.forall_mem_singleton] }

/-- The catalog of the listed words.  Of words with the same id the first one counts. -/
def ofWords (words : List Word) : Catalog :=
  words.foldl add empty

/-- The catalog of the standard vocabulary. -/
def standard : Catalog := ofWords Vocabulary.standard

/-- The word with the given id. -/
def word? (catalog : Catalog) (id : String) : Option Word := do
  catalog.words[← catalog.places.lookup id]?

theorem word?_eq_find? (catalog : Catalog) (id : String) :
    catalog.word? id = catalog.words.find? (·.id == id) := by
  rw [List.find?_eq_bind_findIdx?_getElem?, ← catalog.lookup_places]
  rfl

/-- The card of the word with the given id. -/
def card (catalog : Catalog) (id : String) : Except Failure Card :=
  match catalog.word? id with
  | some word => .ok (.ofWord word)
  | none => .error (Cause.wordNotFound id).failure

/-- The card of the word with the given id, or a card that stands for it. -/
def cardOrStandIn (catalog : Catalog) (id : String) : Card :=
  match catalog.word? id with
  | some word => .ofWord word
  | none => .standingFor id

def ofCategory (catalog : Catalog) (category : Category) : List Word :=
  catalog.words.filter (·.category == category)

/-- The words that a module of the curriculum introduces. -/
def ofUnit (catalog : Catalog) (unit : UInt8) : List Word :=
  catalog.words.filter (·.unit == unit)

def ofColour (catalog : Catalog) (colour : Colour) : List Word :=
  catalog.words.filter (·.colour == colour)

/-- The first word that is written exactly so, or else the first one that differs in
letter case only. -/
def bySurface? (catalog : Catalog) (surface : String) : Option Word :=
  (catalog.words.find? (·.surface == surface)).or
    (let lower := Text.lowercase surface
     catalog.words.find? (Text.lowercase ·.surface == lower))

end Catalog

end SentenceCards
