import SentenceCards.Proofs.Catalog.Punctuation
import SentenceCards.Proofs.Text.Words

/-!
# Loosely printed texts

A text may be printed with other white space than single spaces between its words and around them,
and with punctuation after any of them.  None of that is seen when the text is read: its bare words
stay the words that are printed (`bareWords_of_printsLoosely`).
-/

namespace SentenceCards

/-- Each space becomes a gap of any white space, with or without punctuation in front of it.  There
may be punctuation and white space at the end as well. -/
inductive Loosened : (printed text : List Char) → Prop where
  | ending (stops gap : List Char) (stopped : ∀ c ∈ stops, c ∈ ['.', ',', '!', '?'])
      (blank : ∀ c ∈ gap, Text.isBlank c = true) : Loosened [] (stops ++ gap)
  | letter {c : Char} {printed text : List Char} (solid : c ≠ ' ')
      (later : Loosened printed text) : Loosened (c :: printed) (c :: text)
  | space (stops gap : List Char) {printed text : List Char}
      (stopped : ∀ c ∈ stops, c ∈ ['.', ',', '!', '?']) (nonempty : gap ≠ [])
      (blank : ∀ c ∈ gap, Text.isBlank c = true) (later : Loosened printed text) :
      Loosened (' ' :: printed) (stops ++ (gap ++ text))

/-- The text is a loosened form of what is printed, perhaps with white space in front. -/
def PrintsLoosely (printed text : String) : Prop :=
  ∃ front loose, (∀ c ∈ front, Text.isBlank c = true) ∧ text = .ofList (front ++ loose) ∧
    Loosened printed.toList loose

theorem Loosened.refl (printed : List Char) : Loosened printed printed := by
  induction printed with
  | nil => exact .ending [] [] (by simp) (by simp)
  | cons c rest ih =>
      by_cases solid : c = ' '
      · subst solid
        exact .space [] [' '] (by simp) (by simp) (by simp [Text.isBlank]) ih
      · exact .letter solid ih

theorem PrintsLoosely.refl (printed : String) : PrintsLoosely printed printed :=
  ⟨[], printed.toList, by simp, by simp, .refl _⟩

theorem Loosened.word_append {printed text : List Char} (word : List Char) (solid : ' ' ∉ word)
    (later : Loosened printed text) : Loosened (word ++ printed) (word ++ text) := by
  induction word with
  | nil => exact later
  | cons c more ih =>
      obtain ⟨here, further⟩ := not_or.mp (List.mem_cons.not.mp solid)
      exact .letter (Ne.symm here) (ih further)

/-- A word is copied letter by letter. -/
theorem Loosened.of_word_append {word rest text : List Char}
    (loosened : Loosened (word ++ rest) text) (letters : ∀ c ∈ word, Text.isBlank c = false) :
    ∃ later, text = word ++ later ∧ Loosened rest later := by
  induction word generalizing text with
  | nil => exact ⟨text, rfl, loosened⟩
  | cons c more ih =>
      cases loosened with
      | letter _ loosened =>
          obtain ⟨later, rfl, further⟩ :=
            ih loosened fun d member => letters d (List.mem_cons_of_mem c member)
          exact ⟨later, rfl, further⟩
      | space => exact absurd (letters ' ' List.mem_cons_self) (by decide)

theorem isBlank_of_stop : ∀ c ∈ ['.', ',', '!', '?'], Text.isBlank c = false := by
  simp [Text.isBlank]

section BareWords

variable {word stops gap rest : List Char}

theorem dropEnd_append_stops (bare : Text.dropEnd isStop word = word)
    (stopped : ∀ c ∈ stops, c ∈ ['.', ',', '!', '?']) :
    Text.dropEnd isStop (word ++ stops) = word := by
  have stops : ∀ c ∈ stops.reverse, isStop c = true := fun c member =>
    isStop_iff.mpr (stopped c (List.mem_reverse.mp member))
  rw [Text.dropEnd, List.reverse_append, List.dropWhile_append_of_pos stops]
  exact bare

theorem beginsWord_gap (blank : ∀ c ∈ gap, Text.isBlank c = true) :
    Text.beginsWord gap = false := by
  cases gap with
  | nil => rfl
  | cons c more => simp [Text.beginsWord, blank c List.mem_cons_self]

theorem bareWords_append_gap (blank : ∀ c ∈ gap, Text.isBlank c = true) :
    bareWords (.ofList (gap ++ rest)) = bareWords (.ofList rest) := by
  simp only [bareWords, String.toList_ofList, Text.words_gap_append blank]

theorem bareWords_gap (blank : ∀ c ∈ gap, Text.isBlank c = true) :
    bareWords (.ofList gap) = [] := by
  have skipped : bareWords (.ofList (gap ++ [])) = [] := bareWords_append_gap blank
  rwa [List.append_nil] at skipped

/-- A word is read without the punctuation that follows it. -/
theorem bareWords_append_stops (isWord : Text.IsWord word) (bare : Text.dropEnd isStop word = word)
    (stopped : ∀ c ∈ stops, c ∈ ['.', ',', '!', '?']) (ends : Text.beginsWord rest = false) :
    bareWords (.ofList (word ++ (stops ++ rest))) = .ofList word :: bareWords (.ofList rest) := by
  have stoppedWord : Text.IsWord (word ++ stops) := by
    refine ⟨by simp [isWord.1], ?_⟩
    intro c member
    rcases List.mem_append.mp member with inWord | inStops
    · exact isWord.2 c inWord
    · exact isBlank_of_stop c (stopped c inStops)
  have kept : word.isEmpty = false := by simpa using isWord.1
  simp only [bareWords, String.toList_ofList]
  rw [← List.append_assoc, Text.words_append stoppedWord ends]
  simp [dropEnd_append_stops bare stopped, kept]

/-- Punctuation that stands alone is no word. -/
theorem bareWords_stops (stopped : ∀ c ∈ stops, c ∈ ['.', ',', '!', '?'])
    (blank : ∀ c ∈ gap, Text.isBlank c = true) : bareWords (.ofList (stops ++ gap)) = [] := by
  by_cases empty : stops = []
  · rw [empty]
    exact bareWords_gap blank
  · have isWord : Text.IsWord stops := ⟨empty, fun c member => isBlank_of_stop c (stopped c member)⟩
    have nothing : Text.dropEnd isStop stops = [] :=
      List.rdropWhile_eq_nil_iff.mpr fun c member => isStop_iff.mpr (stopped c member)
    have later := bareWords_gap blank
    rw [bareWords, String.toList_ofList] at later ⊢
    rw [Text.words_append isWord (beginsWord_gap blank)]
    simpa [nothing] using later

end BareWords

/-- The words that are joined are the bare words of the loosened text. -/
theorem Loosened.bareWords_joined {run : List String}
    (areWords : ∀ word ∈ run, Text.IsWord word.toList)
    (areBare : ∀ word ∈ run, Text.dropEnd isStop word.toList = word.toList) {text : List Char}
    (loosened : Loosened (" ".intercalate run).toList text) : bareWords (.ofList text) = run := by
  induction run generalizing text with
  | nil =>
      cases loosened with
      | ending _ _ stopped blank => exact bareWords_stops stopped blank
  | cons word rest ih =>
      obtain ⟨isWord, areWords⟩ := List.forall_mem_cons.mp areWords
      obtain ⟨isBare, areBare⟩ := List.forall_mem_cons.mp areBare
      cases rest with
      | nil =>
          rw [String.intercalate_singleton, ← List.append_nil word.toList] at loosened
          obtain ⟨later, rfl, ended⟩ := loosened.of_word_append isWord.2
          cases ended with
          | ending _ _ stopped blank =>
              rw [bareWords_append_stops isWord isBare stopped (beginsWord_gap blank),
                bareWords_gap blank, String.ofList_toList]
      | cons following others =>
          rw [Text.toList_joined_cons_cons] at loosened
          obtain ⟨later, rfl, goesOn⟩ := loosened.of_word_append isWord.2
          cases goesOn with
          | letter solid => exact absurd rfl solid
          | @space stops gap _ after stopped nonempty blank further =>
              have ends : Text.beginsWord (gap ++ after) = false :=
                Text.beginsWord_append_of_alike (c := ' ') nonempty blank
              rw [bareWords_append_stops isWord isBare stopped ends, bareWords_append_gap blank,
                ih areWords areBare further, String.ofList_toList]

theorem bareWords_of_printsLoosely {run : List String}
    (areWords : ∀ word ∈ run, Text.IsWord word.toList)
    (areBare : ∀ word ∈ run, Text.dropEnd isStop word.toList = word.toList) {text : String}
    (prints : PrintsLoosely (" ".intercalate run) text) : bareWords text = run := by
  obtain ⟨front, loose, blank, rfl, loosened⟩ := prints
  rw [bareWords_append_gap blank]
  exact loosened.bareWords_joined areWords areBare

end SentenceCards
