import SentenceCards.Proofs.Text.Joining
import SentenceCards.Proofs.Text.Lowercase

/-!
# The words of a text

`words` cuts a text into words with the gaps between them.  Here it is read off from the beginning
of the text: white space belongs to no word, and any other character is a word of its own or goes
on with the next one.  So words that are joined with spaces are found again (`wordsOf_joined`), and
letter case makes no difference to the number of words (`length_wordsOf_lowercase`).
-/

namespace SentenceCards.Text

/-- Whether there is a word without a gap before it in front. -/
def beginsTight : List Spaced → Bool
  | [] => false
  | next :: _ => next.gap.isEmpty

/-- Whether the text begins with a word and not with white space. -/
def beginsWord : List Char → Bool
  | [] => false
  | c :: _ => !isBlank c

section Push

variable {c : Char} {cut : List Spaced × List Char}

theorem beginsTight_push : beginsTight (Spaced.push c cut).1 = !isBlank c := by
  obtain ⟨pieces, trailing⟩ := cut
  cases pieces with
  | nil => by_cases blank : isBlank c <;> simp [Spaced.push, blank, beginsTight]
  | cons next later =>
      by_cases blank : isBlank c
      · simp [Spaced.push, blank, beginsTight]
      · by_cases tight : next.gap = [] <;> simp [Spaced.push, blank, tight, beginsTight]

theorem map_word_push_blank (blank : isBlank c = true) :
    (Spaced.push c cut).1.map Spaced.word = cut.1.map Spaced.word := by
  obtain ⟨pieces, trailing⟩ := cut
  cases pieces <;> simp [Spaced.push, blank]

theorem push_alone (letter : isBlank c = false) (ends : beginsTight cut.1 = false) :
    Spaced.push c cut = (⟨[], [c]⟩ :: cut.1, cut.2) := by
  obtain ⟨pieces, trailing⟩ := cut
  cases pieces with
  | nil => simp [Spaced.push, letter]
  | cons next later =>
      have gapped : next.gap.isEmpty = false := ends
      simp [Spaced.push, letter, gapped]

theorem push_joined {word : List Char} {later : List Spaced} {trailing : List Char}
    (letter : isBlank c = false) :
    Spaced.push c (⟨[], word⟩ :: later, trailing) = (⟨[], c :: word⟩ :: later, trailing) := by
  simp [Spaced.push, letter]

theorem map_word_push_joined (letter : isBlank c = false) (goesOn : beginsTight cut.1 = true) :
    ∃ next later, cut.1.map Spaced.word = next :: later ∧
      (Spaced.push c cut).1.map Spaced.word = (c :: next) :: later := by
  obtain ⟨pieces, trailing⟩ := cut
  cases pieces with
  | nil => exact absurd goesOn Bool.false_ne_true
  | cons next later =>
      obtain ⟨gap, word⟩ := next
      obtain rfl : gap = [] := List.isEmpty_iff.mp goesOn
      exact ⟨word, later.map Spaced.word, rfl, by rw [push_joined letter]; rfl⟩

end Push

theorem beginsTight_spaced (text : List Char) : beginsTight (spaced text).1 = beginsWord text := by
  cases text with
  | nil => rfl
  | cons c rest => exact beginsTight_push

section Cons

variable {c : Char} {rest : List Char}

theorem words_cons_blank (blank : isBlank c = true) : words (c :: rest) = words rest :=
  map_word_push_blank blank

/-- White space in front of a text makes no difference to its words. -/
theorem words_gap_append {gap : List Char} (blank : ∀ c ∈ gap, isBlank c = true)
    (rest : List Char) : words (gap ++ rest) = words rest := by
  induction gap with
  | nil => rfl
  | cons c more ih =>
      obtain ⟨here, later⟩ := List.forall_mem_cons.mp blank
      exact (words_cons_blank here).trans (ih later)

theorem words_cons_alone (letter : isBlank c = false) (ends : beginsWord rest = false) :
    words (c :: rest) = [c] :: words rest :=
  congrArg (·.1.map Spaced.word) (push_alone letter ((beginsTight_spaced rest).trans ends))

theorem words_cons_joined (letter : isBlank c = false) (goesOn : beginsWord rest = true) :
    ∃ next later, words rest = next :: later ∧ words (c :: rest) = (c :: next) :: later :=
  map_word_push_joined letter ((beginsTight_spaced rest).trans goesOn)

end Cons

/-- A word at the beginning of a text is cut off, unless the text goes on with it. -/
theorem spaced_append {word rest : List Char} (isWord : IsWord word)
    (ends : beginsWord rest = false) :
    spaced (word ++ rest) = (⟨[], word⟩ :: (spaced rest).1, (spaced rest).2) := by
  obtain ⟨nonempty, letters⟩ := isWord
  induction word with
  | nil => exact absurd rfl nonempty
  | cons c more ih =>
      have letter : isBlank c = false := letters c List.mem_cons_self
      cases more with
      | nil => exact push_alone letter ((beginsTight_spaced rest).trans ends)
      | cons d more =>
          have later : spaced (d :: more ++ rest) =
              (⟨[], d :: more⟩ :: (spaced rest).1, (spaced rest).2) :=
            ih (List.cons_ne_nil d more) fun e member => letters e (List.mem_cons_of_mem c member)
          calc
            spaced (c :: (d :: more ++ rest)) = Spaced.push c (spaced (d :: more ++ rest)) := rfl
            _ = (⟨[], c :: d :: more⟩ :: (spaced rest).1, (spaced rest).2) := by
              rw [later, push_joined letter]

theorem words_append {word rest : List Char} (isWord : IsWord word)
    (ends : beginsWord rest = false) : words (word ++ rest) = word :: words rest :=
  congrArg (·.1.map Spaced.word) (spaced_append isWord ends)

/-- Words with one space between neighbours, and with `gap` in front of them. -/
def spread (gap : List Char) : List String → List Spaced
  | [] => []
  | word :: rest => ⟨gap, word.toList⟩ :: spread [' '] rest

theorem map_word_spread (gap : List Char) (run : List String) :
    (spread gap run).map Spaced.word = run.map String.toList := by
  induction run generalizing gap with
  | nil => rfl
  | cons word rest ih => exact congrArg (word.toList :: ·) (ih [' '])

theorem take_spread (gap : List Char) (run : List String) (count : Nat) :
    (spread gap run).take count = spread gap (run.take count) := by
  induction run generalizing gap count with
  | nil => simp [spread]
  | cons word rest ih =>
      cases count with
      | zero => rfl
      | succ count => exact congrArg (_ :: ·) (ih [' '] count)

theorem drop_spread (run : List String) (count : Nat) :
    (spread [' '] run).drop count = spread [' '] (run.drop count) := by
  induction run generalizing count with
  | nil => simp [spread]
  | cons word rest ih =>
      cases count with
      | zero => rfl
      | succ count => exact ih count

theorem append_spread (word : String) (rest : List String) :
    word.toList ++ (spread [' '] rest).flatMap Spaced.text =
      (" ".intercalate (word :: rest)).toList := by
  induction rest generalizing word with
  | nil => simp [spread]
  | cons following others ih =>
      rw [toList_joined_cons_cons, ← ih]
      simp [spread, Spaced.text]

theorem spaced_joined {run : List String} (areWords : ∀ word ∈ run, IsWord word.toList) :
    spaced (" ".intercalate run).toList = (spread [] run, []) := by
  induction run with
  | nil => rfl
  | cons word rest ih =>
      obtain ⟨isWord, areWords⟩ := List.forall_mem_cons.mp areWords
      cases rest with
      | nil =>
          have alone : spaced (word.toList ++ []) = ([⟨[], word.toList⟩], []) :=
            spaced_append isWord rfl
          simpa [spread] using alone
      | cons following others =>
          have space : isBlank ' ' = true := by decide
          have later : spaced (' ' :: (" ".intercalate (following :: others)).toList) =
              (spread [' '] (following :: others), []) := by
            rw [spaced, List.foldr_cons, ← spaced, ih areWords]
            simp [spread, Spaced.push, space]
          rw [toList_joined_cons_cons, spaced_append isWord (by simp [beginsWord, space]), later]
          rfl

theorem words_joined {run : List String} (areWords : ∀ word ∈ run, IsWord word.toList) :
    words (" ".intercalate run).toList = run.map String.toList := by
  rw [words, spaced_joined areWords, map_word_spread]

/-- Words joined with spaces are found again. -/
theorem wordsOf_joined {run : List String} (areWords : ∀ word ∈ run, IsWord word.toList) :
    wordsOf (" ".intercalate run) = run := by
  rw [wordsOf, words_joined areWords, List.map_map]
  simp [Function.comp_def]

/-- A character adds a word if it ends one. -/
theorem length_words_cons (c : Char) (rest : List Char) :
    (words (c :: rest)).length =
      (words rest).length + if isBlank c || beginsWord rest then 0 else 1 := by
  cases blank : isBlank c with
  | true => simp [words_cons_blank blank]
  | false =>
      cases goesOn : beginsWord rest with
      | false => simp [words_cons_alone blank goesOn]
      | true =>
          obtain ⟨next, later, found, joined⟩ := words_cons_joined blank goesOn
          simp [found, joined]

/-- Characters that are all white space or all not count as much as one of them. -/
theorem length_words_append_of_alike {c : Char} {piece rest : List Char} (nonempty : piece ≠ [])
    (alike : ∀ d ∈ piece, isBlank d = isBlank c) :
    (words (piece ++ rest)).length = (words (c :: rest)).length := by
  induction piece with
  | nil => exact absurd rfl nonempty
  | cons d more ih =>
      have here : isBlank d = isBlank c := alike d List.mem_cons_self
      cases more with
      | nil => simp [length_words_cons, here]
      | cons e more =>
          have next : isBlank e = isBlank c := alike e (by simp)
          have later := ih (List.cons_ne_nil e more) fun other member =>
            alike other (List.mem_cons_of_mem d member)
          rw [List.cons_append, length_words_cons, later, List.cons_append, beginsWord, here, next]
          simp

theorem beginsWord_append_of_alike {c : Char} {piece rest : List Char} (nonempty : piece ≠ [])
    (alike : ∀ d ∈ piece, isBlank d = isBlank c) : beginsWord (piece ++ rest) = !isBlank c := by
  cases piece with
  | nil => exact absurd rfl nonempty
  | cons d more => rw [List.cons_append, beginsWord, alike d List.mem_cons_self]

theorem beginsWord_lowerFrom (before text : List Char) :
    beginsWord (lowerFrom before text) = beginsWord text := by
  cases text with
  | nil => rfl
  | cons c after =>
      exact beginsWord_append_of_alike (lowerBetween_ne_nil before c after)
        fun _ => isBlank_of_mem_lowerBetween

theorem length_words_lowerFrom (before text : List Char) :
    (words (lowerFrom before text)).length = (words text).length := by
  induction text generalizing before with
  | nil => rfl
  | cons c after ih =>
      have alike : ∀ d ∈ lowerBetween before c after, isBlank d = isBlank c :=
        fun _ => isBlank_of_mem_lowerBetween
      rw [lowerFrom, length_words_append_of_alike (lowerBetween_ne_nil before c after) alike,
        length_words_cons, length_words_cons, ih, beginsWord_lowerFrom]

theorem length_wordsOf_lowercase (text : String) :
    (wordsOf (lowercase text)).length = (wordsOf text).length := by
  rw [wordsOf, wordsOf, List.length_map, List.length_map, lowercase, String.toList_ofList,
    length_words_lowerFrom]

end SentenceCards.Text
