import Mathlib.Data.List.DropRight
import SentenceCards.Catalog.Reading

/-!
# Words without their punctuation

A sentence is read without the punctuation at the ends of its words.  Nothing is lost exactly when
no word ends in punctuation, and the words then are the words of the text as they stand.
-/

namespace SentenceCards

section Stops

variable {c : Char}

theorem isStop_iff : isStop c = true ↔ c ∈ ['.', ',', '!', '?'] := by
  simp only [isStop, Bool.or_eq_true, beq_iff_eq, List.mem_cons, List.not_mem_nil, or_false,
    or_assoc]

theorem isStop_eq_false_iff : isStop c = false ↔ c ∉ ['.', ',', '!', '?'] := by
  rw [← isStop_iff, Bool.not_eq_true]

theorem dropEnd_isStop (word : List Char) :
    Text.dropEnd isStop word = word.rdropWhile (· ∈ ['.', ',', '!', '?']) := by
  have same : isStop = fun c => decide (c ∈ ['.', ',', '!', '?']) := by
    funext c
    rw [Bool.eq_iff_iff, isStop_iff, decide_eq_true_iff]
  rw [same]
  rfl

end Stops

/-- No word of the text ends in punctuation. -/
def Unstopped (text : String) : Prop :=
  ∀ word ∈ Text.words text.toList, ∀ c, word.getLast? = some c → c ∉ ['.', ',', '!', '?']

theorem dropEnd_eq_self_iff {word : List Char} :
    Text.dropEnd isStop word = word ↔
      ∀ c, word.getLast? = some c → c ∉ ['.', ',', '!', '?'] := by
  rw [show Text.dropEnd isStop word = word.rdropWhile isStop from rfl,
    List.rdropWhile_eq_self_iff]
  constructor
  · intro bare c last
    obtain ⟨front, rfl⟩ := List.getLast?_eq_some_iff.mp last
    rw [← isStop_eq_false_iff]
    simpa using bare (by simp)
  · intro bare nonempty
    have last := bare _ (List.getLast?_eq_some_getLast nonempty)
    simpa using isStop_eq_false_iff.mpr last

theorem bareWords_eq (text : String) :
    bareWords text =
      (((Text.words text.toList).map (List.rdropWhile (· ∈ ['.', ',', '!', '?']))).filter
        (· ≠ [])).map String.ofList := by
  have cut : Text.dropEnd isStop = List.rdropWhile (· ∈ ['.', ',', '!', '?']) :=
    funext dropEnd_isStop
  have kept : (fun word : List Char => !word.isEmpty) = fun word => decide (word ≠ []) := by
    funext word
    rw [Bool.eq_iff_iff, Bool.not_eq_true', List.isEmpty_eq_false_iff, decide_eq_true_iff]
  rw [bareWords, cut, kept]

theorem isWord_of_mem_bareWords {text word : String} (member : word ∈ bareWords text) :
    Text.IsWord word.toList := by
  obtain ⟨bare, kept, rfl⟩ := List.mem_map.mp member
  obtain ⟨cut, nonempty⟩ := List.mem_filter.mp kept
  obtain ⟨whole, found, rfl⟩ := List.mem_map.mp cut
  obtain ⟨piece, inside, rfl⟩ := List.mem_map.mp found
  rw [String.toList_ofList]
  refine ⟨by simpa using nonempty, ?_⟩
  intro c later
  have front : Text.dropEnd isStop piece.word <+: piece.word := List.rdropWhile_prefix isStop _
  exact (Text.word_of_mem_spaced text.toList piece inside).2 c (front.subset later)

/-- What is dropped from a word is punctuation. -/
theorem countP_isStop_word (word : List Char) :
    word.countP isStop =
      (Text.dropEnd isStop word).countP isStop + (word.rtakeWhile isStop).length := by
  have stops : (word.rtakeWhile isStop).countP isStop = (word.rtakeWhile isStop).length :=
    List.countP_eq_length.mpr fun _ => List.mem_rtakeWhile_imp
  calc
    word.countP isStop = (word.rdropWhile isStop ++ word.rtakeWhile isStop).countP isStop := by
      rw [List.rdropWhile_append_rtakeWhile]
    _ = (Text.dropEnd isStop word).countP isStop + (word.rtakeWhile isStop).length := by
      rw [List.countP_append, stops]
      rfl

theorem dropEnd_eq_self_of_countP_eq {words : List (List Char)}
    (same : (words.map (Text.dropEnd isStop)).flatten.countP isStop =
      words.flatten.countP isStop) :
    ∀ word ∈ words, Text.dropEnd isStop word = word := by
  -- No word gets more punctuation by dropping some, so equal sums leave nothing to drop anywhere.
  have kept : ∀ rest : List (List Char),
      (rest.map (Text.dropEnd isStop)).flatten.countP isStop ≤ rest.flatten.countP isStop := by
    intro rest
    induction rest with
    | nil => exact Nat.le_refl _
    | cons word rest ih =>
        have here := countP_isStop_word word
        simp only [List.map_cons, List.flatten_cons, List.countP_append]
        omega
  induction words with
  | nil => simp
  | cons first rest ih =>
      have here := countP_isStop_word first
      have later := kept rest
      simp only [List.map_cons, List.flatten_cons, List.countP_append] at same
      intro word member
      rcases List.mem_cons.mp member with rfl | member
      · have none : word.rtakeWhile isStop = [] := List.length_eq_zero_iff.mp (by omega)
        have whole : word.rdropWhile isStop ++ word.rtakeWhile isStop = word :=
          List.rdropWhile_append_rtakeWhile
        rw [none, List.append_nil] at whole
        exact whole
      · exact ih (by omega) word member

theorem bareWords_eq_wordsOf {text : String} (unstopped : Unstopped text) :
    bareWords text = Text.wordsOf text := by
  have same : (Text.words text.toList).map (Text.dropEnd isStop) = Text.words text.toList := by
    calc
      (Text.words text.toList).map (Text.dropEnd isStop) = (Text.words text.toList).map id :=
        List.map_congr_left fun word member => dropEnd_eq_self_iff.mpr (unstopped word member)
      _ = Text.words text.toList := List.map_id _
  have nonempty : (Text.words text.toList).filter (!·.isEmpty) = Text.words text.toList := by
    rw [List.filter_eq_self]
    intro word member
    obtain ⟨piece, found, rfl⟩ := List.mem_map.mp member
    simpa using (Text.word_of_mem_spaced text.toList piece found).1
  rw [bareWords, same, nonempty, Text.wordsOf]

/-- The words of a text have all its punctuation when they are read only if none ends in any. -/
theorem unstopped_of_countP_eq {text : String}
    (same : ((bareWords text).map String.toList).flatten.countP isStop =
      ((Text.wordsOf text).map String.toList).flatten.countP isStop) : Unstopped text := by
  have lists : ∀ words : List (List Char),
      (words.map String.ofList).map String.toList = words := by
    intro words
    simp [Function.comp_def]
  rw [bareWords, Text.wordsOf, lists, lists, List.flatten_filter_not_isEmpty] at same
  intro word member
  exact dropEnd_eq_self_iff.mp (dropEnd_eq_self_of_countP_eq same word member)

end SentenceCards
