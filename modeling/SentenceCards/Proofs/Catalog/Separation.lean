import SentenceCards.Proofs.Catalog.Loosening
import SentenceCards.Proofs.Catalog.LongestMatch
import SentenceCards.Proofs.Text.Joining

/-!
# Catalogs whose cards are read back

The surfaces of cards are printed one after the other, and a surface may have several words itself.
Looking for the longest surface goes too far only if a surface together with words after it is
again a surface.  In a catalog where that never happens the cards of a sentence are read back, also
from a loosely printed text (`Separable.read_sentence`).  The standard catalog is one.
-/

namespace SentenceCards

namespace Catalog

/-- The surfaces are told apart in whatever order they are printed. -/
structure Separable (catalog : Catalog) : Prop where
  nonempty : ∀ word ∈ catalog.words, Text.wordsOf word.surface ≠ []
  spaced : ∀ word ∈ catalog.words, Text.collapse word.surface = word.surface
  unstopped : ∀ word ∈ catalog.words, Unstopped word.surface
  distinct : (catalog.words.map Word.surface).Nodup
  /-- No surface goes on after another one and a space, whatever the letter case. -/
  apart : ∀ word ∈ catalog.words, ∀ other ∈ catalog.words,
    ¬ (Text.lowercase word.surface).toList ++ [' '] <+: (Text.lowercase other.surface).toList

namespace Separable

variable {catalog : Catalog} (separable : catalog.Separable)

include separable

/-- A run that goes on after a surface is not written like any surface. -/
theorem length_le_of_matches {word : Word} (listed : word ∈ catalog.words)
    {other rest : List String} (isPrefix : other <+: Text.wordsOf word.surface ++ rest)
    (matched : catalog.Matches other) : other.length ≤ (Text.wordsOf word.surface).length := by
  by_contra longer
  obtain ⟨more, rfl⟩ : Text.wordsOf word.surface <+: other :=
    List.prefix_of_prefix_length_le (List.prefix_append _ rest) isPrefix (Nat.le_of_not_le longer)
  have goesOn : more ≠ [] := by
    rintro rfl
    simp at longer
  obtain ⟨known, listedToo, written⟩ := matched
  have caseless : known.SpellsCaseless _ := written.elim (congrArg Text.lowercase) id
  have joined : " ".intercalate (Text.wordsOf word.surface ++ more) =
      word.surface ++ " " ++ " ".intercalate more := by
    rw [String.intercalate_append_of_ne_nil (separable.nonempty word listed) goesOn]
    exact congrArg (· ++ " " ++ " ".intercalate more) (separable.spaced word listed)
  refine separable.apart word listed known listedToo ?_
  rw [caseless, joined, Text.lowercase, Text.lowercase]
  simp [Text.lowerFrom_append_space]

theorem takes {word : Word} (listed : word ∈ catalog.words) :
    catalog.Takes (Text.wordsOf word.surface) word := by
  have spelled : word.surface = " ".intercalate (Text.wordsOf word.surface) :=
    (separable.spaced word listed).symm
  obtain ⟨before, after, split⟩ := List.append_of_mem listed
  refine .inl ⟨spelled, before, after, split, ?_⟩
  intro other inFront spelledToo
  have distinct := separable.distinct
  rw [split, List.map_append, List.nodup_append] at distinct
  have different := distinct.2.2 other.surface (List.mem_map_of_mem inFront) word.surface (by simp)
  exact different (spelledToo.trans spelled.symm)

variable {cards : List Card} (listed : ∀ card ∈ cards, card ∈ catalog.words.map Card.ofWord)

include listed

theorem readAs_surfaces :
    catalog.ReadAs (cards.flatMap (Text.wordsOf ·.surface)) (cards.map .known) := by
  induction cards with
  | nil => exact .nil
  | cons card rest ih =>
      obtain ⟨here, later⟩ := List.forall_mem_cons.mp listed
      obtain ⟨word, known, rfl⟩ := List.mem_map.mp here
      rw [List.flatMap_cons]
      exact .known rfl (separable.nonempty word known)
        (fun _ isPrefix matched => separable.length_le_of_matches known isPrefix matched)
        (separable.takes known) (ih later)

theorem sentence_eq_joined :
    sentence cards = " ".intercalate (cards.flatMap (Text.wordsOf ·.surface)) := by
  have surfaces : cards.map Card.surface =
      (cards.map (Text.wordsOf ·.surface)).map (" ".intercalate ·) := by
    rw [List.map_map]
    refine List.map_congr_left fun card member => ?_
    obtain ⟨word, known, rfl⟩ := List.mem_map.mp (listed card member)
    exact (separable.spaced word known).symm
  rw [sentence, surfaces, Text.joined_flatten, List.flatMap]
  intro run member
  obtain ⟨card, inside, rfl⟩ := List.mem_map.mp member
  obtain ⟨word, known, rfl⟩ := List.mem_map.mp (listed card inside)
  exact separable.nonempty word known

/-- The words of the surfaces are read without loss. -/
theorem plain_of_mem_surfaces (piece : String)
    (member : piece ∈ cards.flatMap (Text.wordsOf ·.surface)) :
    Text.IsWord piece.toList ∧ Text.dropEnd isStop piece.toList = piece.toList := by
  obtain ⟨card, inside, member⟩ := List.mem_flatMap.mp member
  obtain ⟨word, known, rfl⟩ := List.mem_map.mp (listed card inside)
  obtain ⟨letters, found, rfl⟩ := List.mem_map.mp member
  rw [String.toList_ofList]
  refine ⟨?_, dropEnd_eq_self_iff.mpr (separable.unstopped word known letters found)⟩
  obtain ⟨spaced, inSpaced, rfl⟩ := List.mem_map.mp found
  exact Text.word_of_mem_spaced _ spaced inSpaced

/-- The cards of a sentence are read back, however loosely it is printed. -/
theorem read_sentence {text : String} (prints : PrintsLoosely (sentence cards) text) :
    catalog.read text = cards.map .known := by
  have plain := separable.plain_of_mem_surfaces listed
  rw [separable.sentence_eq_joined listed] at prints
  have bare := bareWords_of_printsLoosely (fun piece member => (plain piece member).1)
    (fun piece member => (plain piece member).2) prints
  rw [read, bare]
  exact (readAs_readWords fun piece member => (plain piece member).1).unique
    (separable.readAs_surfaces listed)

end Separable

theorem cardsOf_of_read {catalog : Catalog} {text : String} {cards : List Card}
    (reads : catalog.read text = cards.map .known) : catalog.cardsOf text = .ok cards := by
  rw [cardsOf, reads, List.mapM_map]
  have kept : cards.mapM (m := Except Failure) (fun card => pure (id card)) =
      pure (cards.map id) := List.mapM_pure
  rwa [List.map_id] at kept

theorem separable_standard : standard.Separable := by
  have plain : ∀ word ∈ standard.words, Text.wordsOf word.surface ≠ [] ∧
      Text.collapse word.surface = word.surface ∧
      ((bareWords word.surface).map String.toList).flatten.countP isStop =
        ((Text.wordsOf word.surface).map String.toList).flatten.countP isStop := by
    decide +kernel
  constructor
  case nonempty => exact fun word listed => (plain word listed).1
  case spaced => exact fun word listed => (plain word listed).2.1
  case unstopped => exact fun word listed => unstopped_of_countP_eq (plain word listed).2.2
  case distinct => decide +kernel
  case apart => decide +kernel

end Catalog

end SentenceCards
