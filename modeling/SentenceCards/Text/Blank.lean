/-!
# White space and words

Text is cut into words at white space.  `spaced` keeps the gaps as well, so that
the text can be put together again (`flatten_spaced`), and every word it finds is
nonempty and free of white space (`word_of_mem_spaced`).
-/

namespace SentenceCards.Text

/-- The characters with the Unicode property `White_Space`. -/
def isBlank (c : Char) : Bool :=
  let n := c.toNat
  (9 ≤ n && n ≤ 13) || n == 0x20 || n == 0x85 || n == 0xA0 || n == 0x1680 ||
    (0x2000 ≤ n && n ≤ 0x200A) || n == 0x2028 || n == 0x2029 || n == 0x202F ||
    n == 0x205F || n == 0x3000

/-- The text without the characters satisfying `drop` at its end. -/
def dropEnd (drop : Char → Bool) (text : List Char) : List Char :=
  (text.reverse.dropWhile drop).reverse

/-- The text without the white space at its two ends. -/
def trim (text : List Char) : List Char :=
  dropEnd isBlank (text.dropWhile isBlank)

/-- A word together with the white space written before it. -/
structure Spaced where
  gap : List Char
  word : List Char
  deriving DecidableEq, Inhabited

/-- The characters of the gap and of the word. -/
def Spaced.text (piece : Spaced) : List Char := piece.gap ++ piece.word

/-- Puts one more character in front of words that have been separated already. -/
def Spaced.push (c : Char) : List Spaced × List Char → List Spaced × List Char
  | ([], rest) => if isBlank c then ([], c :: rest) else ([⟨[], [c]⟩], rest)
  | (next :: later, rest) =>
      if isBlank c then (⟨c :: next.gap, next.word⟩ :: later, rest)
      else if next.gap.isEmpty then (⟨[], c :: next.word⟩ :: later, rest)
      else (⟨[], [c]⟩ :: next :: later, rest)

/-- The words of a text with their gaps, and the white space after the last word. -/
def spaced (text : List Char) : List Spaced × List Char :=
  text.foldr Spaced.push ([], [])

/-- The words of a text: its longest runs without white space. -/
def words (text : List Char) : List (List Char) :=
  (spaced text).1.map Spaced.word

/-- The words of a string. -/
def wordsOf (text : String) : List String :=
  (words text.toList).map String.ofList

/-- The words of a string with one space between neighbours. -/
def collapse (text : String) : String :=
  " ".intercalate (wordsOf text)

/-- The string without the white space at its two ends. -/
def trimmed (text : String) : String :=
  String.ofList (trim text.toList)

theorem flatten_push (c : Char) (cut : List Spaced × List Char) :
    ((Spaced.push c cut).1.map Spaced.text).flatten ++ (Spaced.push c cut).2 =
      c :: ((cut.1.map Spaced.text).flatten ++ cut.2) := by
  obtain ⟨pieces, rest⟩ := cut
  cases pieces with
  | nil =>
      by_cases blank : isBlank c <;> simp [Spaced.push, blank, Spaced.text]
  | cons next later =>
      by_cases blank : isBlank c
      · simp [Spaced.push, blank, Spaced.text]
      · by_cases joined : next.gap = [] <;>
          simp [Spaced.push, blank, joined, Spaced.text]

/-- Nothing is lost: gaps, words and the final white space give the text back. -/
theorem flatten_spaced (text : List Char) :
    ((spaced text).1.map Spaced.text).flatten ++ (spaced text).2 = text := by
  induction text with
  | nil => rfl
  | cons c rest ih => rw [spaced, List.foldr_cons, flatten_push]; exact congrArg (c :: ·) ih

/-- A word is nonempty and holds no white space. -/
def IsWord (word : List Char) : Prop := word ≠ [] ∧ ∀ c ∈ word, isBlank c = false

theorem word_of_mem_push {c : Char} {cut : List Spaced × List Char}
    (known : ∀ piece ∈ cut.1, IsWord piece.word) :
    ∀ piece ∈ (Spaced.push c cut).1, IsWord piece.word := by
  obtain ⟨pieces, rest⟩ := cut
  intro piece member
  cases pieces with
  | nil =>
      by_cases blank : isBlank c
      · simp [Spaced.push, blank] at member
      · simp [Spaced.push, blank] at member
        subst member
        simp [IsWord, blank]
  | cons next later =>
      have nextWord := known next (by simp)
      by_cases blank : isBlank c
      · simp [Spaced.push, blank] at member
        rcases member with rfl | member
        · exact nextWord
        · exact known piece (by simp [member])
      · by_cases joined : next.gap = []
        · simp [Spaced.push, blank, joined] at member
          rcases member with rfl | member
          · refine ⟨by simp, ?_⟩
            intro d inside
            rcases List.mem_cons.mp inside with rfl | inside
            · simpa using blank
            · exact nextWord.2 d inside
          · exact known piece (by simp [member])
        · simp [Spaced.push, blank, joined] at member
          rcases member with rfl | rfl | member
          · simp [IsWord, blank]
          · exact nextWord
          · exact known piece (by simp [member])

theorem word_of_mem_spaced (text : List Char) :
    ∀ piece ∈ (spaced text).1, IsWord piece.word := by
  induction text with
  | nil => simp [spaced]
  | cons c rest ih => exact word_of_mem_push ih

end SentenceCards.Text
