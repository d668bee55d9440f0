import SentenceCards.Proofs.Catalog.LongestMatch
import SentenceCards.Proofs.Catalog.Runs
import SentenceCards.Proofs.Prompt.Segments

/-!
# Colours and tokens

Highlighting looks for surfaces of at most three words in the line as it is written, and reading
looks for the longest surface of the catalog among words without punctuation.  On a line of plain
words, with punctuation at most at its end, the two find the same runs if no surface has more than
three words (`coloured_as_read`).
-/

namespace SentenceCards

/-- The word without the punctuation at its end. -/
def bareWord (word : String) : String :=
  String.ofList (word.toList.rdropWhile (· ∈ ['.', ',', '!', '?']))

theorem dropEnd_append_cons {c : Char} (front back : List Char) (solid : isStop c = false) :
    Text.dropEnd isStop (front ++ c :: back) = front ++ c :: Text.dropEnd isStop back := by
  simp only [Text.dropEnd, List.reverse_append, List.reverse_cons, List.append_assoc,
    List.dropWhile_append]
  split
  next none => simp [List.isEmpty_iff.mp none, solid]
  next => simp

namespace Highlight

open Text (Spaced spread)

/-- No word is a number.  Only the last word may end in punctuation, and it is not made of it
alone. -/
structure PlainWords (words : List String) : Prop where
  areWords : ∀ word ∈ words, Text.IsWord word.toList
  noNumber : ∀ word ∈ words, ∃ c ∈ word.toList, c.isDigit = false
  unstopped : words.Pairwise fun word _ =>
    ∀ c, word.toList.getLast? = some c → c ∉ ['.', ',', '!', '?']
  solid : ∀ word ∈ words, ∃ c ∈ word.toList, c ∉ ['.', ',', '!', '?']

namespace PlainWords

variable {words run : List String} {word : String}

theorem sublist (plain : PlainWords words) (inside : run.Sublist words) : PlainWords run where
  areWords := fun word member => plain.areWords word (inside.subset member)
  noNumber := fun word member => plain.noNumber word (inside.subset member)
  unstopped := plain.unstopped.sublist inside
  solid := fun word member => plain.solid word (inside.subset member)

theorem isNumber_eq_false (plain : PlainWords words) (member : word ∈ words) :
    isNumber word.toList = false := by
  obtain ⟨c, inside, letter⟩ := plain.noNumber word member
  exact List.all_eq_false.mpr ⟨c, inside, by simp [letter]⟩

theorem dropEnd_ne_nil (plain : PlainWords words) (member : word ∈ words) :
    Text.dropEnd isStop word.toList ≠ [] := by
  obtain ⟨c, inside, solid⟩ := plain.solid word member
  intro nothing
  exact solid (isStop_iff.mp (List.rdropWhile_eq_nil_iff.mp nothing c inside))

/-- Punctuation is left out of a run by leaving it out of its words. -/
theorem dropEnd_joined (plain : PlainWords run) :
    Text.dropEnd isStop (" ".intercalate run).toList =
      (" ".intercalate (run.map bareWord)).toList := by
  induction run with
  | nil => rfl
  | cons word rest ih =>
      cases rest with
      | nil => simp [bareWord, dropEnd_isStop]
      | cons following others =>
          have later := ih (plain.sublist (List.sublist_cons_self _ _))
          have bare : Text.dropEnd isStop word.toList = word.toList :=
            dropEnd_eq_self_iff.mpr ((List.pairwise_cons.mp plain.unstopped).1 following (by simp))
          have solid : isStop ' ' = false := by decide
          have kept : (bareWord word).toList = word.toList := by
            rw [bareWord, String.toList_ofList, ← dropEnd_isStop, bare]
          rw [Text.toList_joined_cons_cons, dropEnd_append_cons _ _ solid, later, ← kept]
          exact (Text.toList_joined_cons_cons _ _ _).symm

theorem bareWords_joined (plain : PlainWords words) :
    bareWords (" ".intercalate words) = words.map bareWord := by
  have kept : (words.map fun word => Text.dropEnd isStop word.toList).filter (!·.isEmpty) =
      words.map fun word => Text.dropEnd isStop word.toList := by
    rw [List.filter_eq_self]
    intro bare member
    obtain ⟨word, inside, rfl⟩ := List.mem_map.mp member
    simpa using plain.dropEnd_ne_nil inside
  rw [bareWords, Text.words_joined plain.areWords, List.map_map]
  simp only [Function.comp_def]
  rw [kept, List.map_map]
  simp only [Function.comp_def, dropEnd_isStop]
  rfl

theorem isWord_bareWord (plain : PlainWords words) :
    ∀ word ∈ words.map bareWord, Text.IsWord word.toList := by
  rw [← plain.bareWords_joined]
  exact fun _ => isWord_of_mem_bareWords

end PlainWords

section Runs

theorem runText_spread (gap : List Char) (words : List String) :
    runText (spread gap words) = (" ".intercalate words).toList := by
  cases words with
  | nil => rfl
  | cons word rest => exact Text.append_spread word rest

theorem runText_take_spread (gap : List Char) (words : List String) (count : Nat) :
    runText ((spread gap words).take count) = (" ".intercalate (words.take count)).toList := by
  rw [Text.take_spread, runText_spread]

/-- Painting tries the runs that reading tries. -/
theorem paintedRun?_spread {catalog : Catalog} {words : List String} (plain : PlainWords words)
    (gap : List Char) (limit : Nat) :
    paintedRun? catalog (spread gap words) limit =
      (catalog.longestRun? (words.map bareWord) limit).map (Prod.map id Word.colour) := by
  induction limit with
  | zero => rfl
  | succ limit ih =>
      -- Reading leaves out the punctuation of each word, painting that at the end of the run.
      have run := (plain.sublist (List.take_sublist (limit + 1) words)).dropEnd_joined
      have looked : Text.dropEnd isStop (runText ((spread gap words).take (limit + 1))) =
          (" ".intercalate ((words.map bareWord).take (limit + 1))).toList := by
        rw [runText_take_spread, run, List.map_take]
      simp only [paintedRun?, Catalog.longestRun?, looked, String.ofList_toList]
      cases catalog.bySurface? (" ".intercalate ((words.map bareWord).take (limit + 1))) with
      | none => exact ih
      | some word => rfl

end Runs

section Limit

variable {catalog : Catalog} {words : List String}

theorem longestRun?_of_unmatched {small large : Nat} (within : small ≤ large)
    (unmatched : ∀ count, small < count → count ≤ large →
      catalog.bySurface? (" ".intercalate (words.take count)) = none) :
    catalog.longestRun? words large = catalog.longestRun? words small := by
  induction large with
  | zero => rw [Nat.le_zero.mp within]
  | succ large ih =>
      rcases Nat.lt_or_eq_of_le within with further | rfl
      · rw [Catalog.longestRun?, unmatched (large + 1) further (Nat.le_refl _)]
        exact ih (Nat.le_of_lt_succ further) fun count beyond inside =>
          unmatched count beyond (Nat.le_succ_of_le inside)
      · rfl

/-- Looking for three words is looking far enough, and not too far. -/
theorem longestRun?_three (short : catalog.longestSurface ≤ longestRun)
    (areWords : ∀ word ∈ words, Text.IsWord word.toList) :
    catalog.longestRun? words (min longestRun words.length) =
      catalog.longestRun? words (min catalog.longestSurface words.length) := by
  apply longestRun?_of_unmatched
  · omega
  · intro count beyond inside
    rw [Catalog.bySurface?_eq_none_iff]
    -- A run of more words than the longest surface has is no surface.
    intro matched
    have bounded := matched.length_le fun word member => areWords word (List.mem_of_mem_take member)
    rw [List.length_take] at bounded
    omega

end Limit

/-- The segments of a run with a gap in front.  A run that is read as a card is painted in the
colour of the card. -/
def segmentsOfRun (gap : List Char) : List String × Token → List Segment
  | (run, .known card) => [.plain gap, .painted card.colour.code (" ".intercalate run).toList]
  | (run, .unknown _) => [.plain (gap ++ (" ".intercalate run).toList)]

/-- The segments of runs with one space between neighbours, and with `gap` in front of them. -/
def segmentsOfRuns (gap : List Char) : List (List String × Token) → List Segment
  | [] => []
  | piece :: rest => segmentsOfRun gap piece ++ segmentsOfRuns [' '] rest

/-- A run as it is read, without punctuation. -/
def bareRun (piece : List String × Token) : List String × Token :=
  (piece.1.map bareWord, piece.2)

section Segments

variable {catalog : Catalog} (short : catalog.longestSurface ≤ longestRun)

include short

theorem paintedRun?_head {word : String} {rest : List String}
    (plain : PlainWords (word :: rest)) (gap : List Char) :
    paintedRun? catalog (⟨gap, word.toList⟩ :: spread [' '] rest)
        (min longestRun ((spread [' '] rest).length + 1)) =
      (catalog.longestRun? (bareWord word :: rest.map bareWord)
        (min catalog.longestSurface ((rest.map bareWord).length + 1))).map
          (Prod.map id Word.colour) := by
  have length : (spread [' '] rest).length = rest.length := by
    have words := congrArg List.length (Text.map_word_spread [' '] rest)
    simpa using words
  have same := longestRun?_three short plain.isWord_bareWord
  rw [List.length_map, List.length_cons] at same
  rw [length, List.length_map]
  exact (paintedRun?_spread plain gap _).trans
    (congrArg (Option.map (Prod.map id Word.colour)) same)

/-- The segments are those of the runs that are read. -/
theorem exists_runs {words : List String} (plain : PlainWords words) (gap : List Char)
    (first : Bool)
    (noCommand : first = true → ∀ word, words.head? = some word → word.toList.head? ≠ some ':') :
    ∃ runs : List (List String × Token),
      (runs.map Prod.fst).flatten = words ∧
        runs.map bareRun = catalog.readRuns catalog.longestSurface (words.map bareWord) ∧
        segments catalog first (spread gap words) = segmentsOfRuns gap runs := by
  -- A run takes one word or more, so what is left is shorter by an unknown number of words.
  cases words with
  | nil => exact ⟨[], rfl, by simp [Catalog.readRuns], by simp [spread, segments, segmentsOfRuns]⟩
  | cons word rest =>
      have uncommanding : (first && isCommand word.toList) = false := by
        cases first with
        | false => rfl
        | true => simpa [isCommand] using noCommand rfl word rfl
      have noNumber : isNumber word.toList = false := plain.isNumber_eq_false List.mem_cons_self
      have looked := paintedRun?_head short plain gap
      rw [spread, segments, List.map_cons, Catalog.readRuns]
      simp only [uncommanding, noNumber, Bool.false_eq_true, if_false]
      rw [looked]
      cases finds : catalog.longestRun? (bareWord word :: rest.map bareWord)
          (min catalog.longestSurface ((rest.map bareWord).length + 1)) with
      | none =>
          obtain ⟨runs, whole, read, shown⟩ :=
            exists_runs (plain.sublist (List.sublist_cons_self _ _)) [' '] false (by simp)
          refine ⟨([word], .unknown (bareWord word)) :: runs, ?_, ?_, ?_⟩
          · simp [whole]
          · simp [bareRun, read]
          · simp [segmentsOfRuns, segmentsOfRun, shown, Spaced.text]
      | some found =>
          obtain ⟨count, card⟩ := found
          obtain ⟨positive, _⟩ := Catalog.bySurface?_of_longestRun? finds
          obtain ⟨count, rfl⟩ := Nat.exists_eq_succ_of_ne_zero (Nat.pos_iff_ne_zero.mp positive)
          obtain ⟨runs, whole, read, shown⟩ :=
            exists_runs (plain.sublist ((List.drop_sublist count rest).cons word)) [' '] false
              (by simp)
          refine ⟨(word :: rest.take count, .known (.ofWord card)) :: runs, ?_, ?_, ?_⟩
          · simp [whole]
          · simp [bareRun, read]
          · have run : runText ((⟨gap, word.toList⟩ :: spread [' '] rest).take (count + 1)) =
                (" ".intercalate (word :: rest.take count)).toList :=
              runText_take_spread gap (word :: rest) (count + 1)
            simp only [Option.map_some, Prod.map, id, run]
            rw [show count.succ - 1 = count from rfl, Text.drop_spread, shown]
            rfl
termination_by words.length

end Segments

/-- What is painted in a segment, with the code. -/
def painting? : Segment → Option (String × String)
  | .plain _ => none
  | .painted code text => some (code, String.ofList text)

/-- The words of a segment that is not painted. -/
def unpaintedWords : Segment → List String
  | .plain text => Text.wordsOf (String.ofList text)
  | .painted .. => []

/-- A run that is read as a card, with the code of the card's colour. -/
def cardRun? : List String × Token → Option (String × String)
  | (run, .known card) => some ("\x1b[" ++ card.colour.parameters ++ "m", " ".intercalate run)
  | (_, .unknown _) => none

def unknownWord? : Token → Option String
  | .known _ => none
  | .unknown word => some word

/-- A run in the colour of its card, or without colour if it is unknown. -/
def shownRun : List String × Token → String
  | (run, .known card) =>
      "\x1b[" ++ card.colour.parameters ++ "m" ++ " ".intercalate run ++ "\x1b[0m"
  | (run, .unknown _) => " ".intercalate run

section Shown

variable {runs : List (List String × Token)}

theorem paintings_segmentsOfRuns (gap : List Char) (runs : List (List String × Token)) :
    (segmentsOfRuns gap runs).filterMap painting? = runs.filterMap cardRun? := by
  induction runs generalizing gap with
  | nil => rfl
  | cons piece rest ih =>
      obtain ⟨run, token⟩ := piece
      cases token <;>
        simp only [segmentsOfRuns, segmentsOfRun, List.cons_append, List.nil_append,
          List.filterMap_cons, painting?, cardRun?, Colour.code_eq, String.ofList_toList, ih]

theorem shown_segmentsOfRun (gap : List Char) (piece : List String × Token) :
    (segmentsOfRun gap piece).flatMap Segment.shown = gap ++ (shownRun piece).toList := by
  obtain ⟨run, token⟩ := piece
  cases token with
  | known card =>
      simp only [segmentsOfRun, Segment.shown, shownRun, List.flatMap_cons, List.flatMap_nil,
        List.append_nil, String.ofList_toList, inStyle, plainCode, Colour.code_eq]
  | unknown word =>
      simp only [segmentsOfRun, Segment.shown, shownRun, List.flatMap_cons, List.flatMap_nil,
        List.append_nil]

theorem shown_segmentsOfRuns (gap : List Char) (piece : List String × Token)
    (rest : List (List String × Token)) :
    (segmentsOfRuns gap (piece :: rest)).flatMap Segment.shown =
      gap ++ (" ".intercalate ((piece :: rest).map shownRun)).toList := by
  induction rest generalizing gap piece with
  | nil => simp [segmentsOfRuns, shown_segmentsOfRun]
  | cons following rest ih =>
      rw [segmentsOfRuns, List.flatMap_append, shown_segmentsOfRun, ih, List.append_assoc]
      exact congrArg (gap ++ ·) (Text.toList_joined_cons_cons _ _ _).symm

theorem unpaintedWords_segmentsOfRuns {gap : List Char}
    (blank : ∀ c ∈ gap, Text.isBlank c = true)
    (single : ∀ piece ∈ runs, ∀ bare, piece.2 = .unknown bare →
      ∃ word, piece.1 = [word] ∧ bareWord word = bare ∧ Text.IsWord word.toList) :
    ((segmentsOfRuns gap runs).flatMap unpaintedWords).map bareWord =
      (runs.map Prod.snd).filterMap unknownWord? := by
  induction runs generalizing gap with
  | nil => rfl
  | cons piece rest ih =>
      obtain ⟨run, token⟩ := piece
      obtain ⟨here, later⟩ := List.forall_mem_cons.mp single
      have space : ∀ c ∈ [' '], Text.isBlank c = true :=
        List.forall_mem_singleton.mpr (by decide)
      rw [segmentsOfRuns, List.flatMap_append, List.map_append, ih space later]
      cases token with
      | known card =>
          have nothing : Text.words (gap ++ []) = [] := Text.words_gap_append blank []
          rw [List.append_nil] at nothing
          simp only [segmentsOfRun, List.flatMap_cons, List.flatMap_nil, unpaintedWords,
            Text.wordsOf, String.toList_ofList, nothing]
          rfl
      | unknown bare =>
          obtain ⟨word, rfl, rfl, isWord⟩ := here bare rfl
          have alone : Text.words (word.toList ++ []) = [word.toList] :=
            Text.words_append isWord rfl
          rw [List.append_nil] at alone
          simp only [segmentsOfRun, List.flatMap_cons, List.flatMap_nil, unpaintedWords,
            Text.wordsOf, String.toList_ofList, String.intercalate_singleton,
            Text.words_gap_append blank, alone, List.map_cons, String.ofList_toList]
          rfl

end Shown

/-- On a line of plain words, highlighting paints the runs that are read as cards, each in the
colour of its card, and leaves the unknown words as they are.  The line is shown as these runs with
a space between neighbours. -/
theorem coloured_as_read (catalog : Catalog) (words : List String)
    (short : ∀ word ∈ catalog.words, (Text.wordsOf word.surface).length ≤ 3)
    (plain : PlainWords words)
    (noCommand : ∀ word, words.head? = some word → word.toList.head? ≠ some ':') :
    let line := " ".intercalate words
    ∃ runs : List (List String × Token),
      (runs.map Prod.fst).flatten = words ∧
        runs.map bareRun = catalog.runs line ∧ runs.map Prod.snd = catalog.read line ∧
        (segmentsOf catalog line).filterMap painting? = runs.filterMap cardRun? ∧
        ((segmentsOf catalog line).flatMap unpaintedWords).map bareWord =
          (catalog.read line).filterMap unknownWord? ∧
        (highlight? catalog line).getD line = " ".intercalate (runs.map shownRun) := by
  intro line
  obtain ⟨runs, whole, read, shown⟩ :=
    exists_runs (Catalog.longestSurface_le_iff.mpr short) plain [] true fun _ => noCommand
  have segments : segmentsOf catalog line = segmentsOfRuns [] runs ++ [.plain []] := by
    rw [segmentsOf, Text.spaced_joined plain.areWords, ← shown]
  rw [← plain.bareWords_joined] at read
  have tokens : runs.map Prod.snd = catalog.read line := by
    rw [← Catalog.map_snd_runs, Catalog.runs, ← read, List.map_map]
    rfl
  refine ⟨runs, whole, read, tokens, ?_, ?_, ?_⟩
  · rw [segments, List.filterMap_append, paintings_segmentsOfRuns]
    exact List.append_nil _
  · have single : ∀ piece ∈ runs, ∀ bare, piece.2 = .unknown bare →
        ∃ word, piece.1 = [word] ∧ bareWord word = bare ∧ Text.IsWord word.toList := by
      rintro ⟨run, token⟩ member bare rfl
      have inRead : (run.map bareWord, Token.unknown bare) ∈ catalog.runs line := by
        rw [Catalog.runs, ← read]
        exact List.mem_map_of_mem member
      obtain ⟨word, rfl, same⟩ :=
        List.map_eq_singleton_iff.mp (Catalog.unknown_of_mem_readRuns inRead)
      refine ⟨word, rfl, same, plain.areWords word ?_⟩
      rw [← whole]
      exact List.mem_flatten_of_mem (List.mem_map_of_mem member) List.mem_cons_self
    rw [segments, List.flatMap_append, List.map_append,
      unpaintedWords_segmentsOfRuns (by simp) single, tokens]
    exact List.append_nil _
  · rw [getD_highlight?, segments, List.flatMap_append]
    cases runs with
    | nil => rfl
    | cons piece rest =>
        rw [shown_segmentsOfRuns, List.nil_append]
        exact (congrArg String.ofList (List.append_nil _)).trans String.ofList_toList

/-- A surface of two words is one run, and the punctuation at the end stays with its word. -/
theorem coloured_as_read_tamakiMakaurau :
    let words := ["Ko", "Tāmaki", "Makaurau", "waka!"]
    let line := " ".intercalate words
    (∀ word ∈ Catalog.standard.words, (Text.wordsOf word.surface).length ≤ 3) ∧
      PlainWords words ∧
      (∀ word, words.head? = some word → word.toList.head? ≠ some ':') ∧
      ∃ runs : List (List String × Token),
        (runs.map Prod.fst).flatten = words ∧
          runs.filterMap cardRun? = [("\x1b[35m", "Ko"), ("\x1b[34m", "Tāmaki Makaurau")] ∧
          ((segmentsOf .standard line).flatMap unpaintedWords).map bareWord = ["waka"] ∧
          " ".intercalate (runs.map shownRun) =
            "\x1b[35mKo\x1b[0m \x1b[34mTāmaki Makaurau\x1b[0m waka!" := by
  intro words line
  have short : ∀ word ∈ Catalog.standard.words, (Text.wordsOf word.surface).length ≤ 3 := by
    decide +kernel
  have bare : words.Pairwise fun word _ => Text.dropEnd isStop word.toList = word.toList := by
    decide +kernel
  have unblank : ∀ word ∈ words,
      (!word.toList.isEmpty && word.toList.all (!Text.isBlank ·)) = true := by decide +kernel
  have letters : ∀ word ∈ words, word.toList.any (!·.isDigit) = true := by decide +kernel
  have solid : ∀ word ∈ words, word.toList.any (· ∉ ['.', ',', '!', '?']) = true := by
    decide +kernel
  have plain : PlainWords words := by
    constructor
    case areWords =>
      intro word member
      simpa [Text.IsWord] using unblank word member
    case noNumber =>
      intro word member
      simpa using letters word member
    case unstopped => exact bare.imp fun same => dropEnd_eq_self_iff.mp same
    case solid =>
      intro word member
      simpa using solid word member
  have noCommand : ∀ word, words.head? = some word → word.toList.head? ≠ some ':' := by
    rintro word same
    obtain rfl : "Ko" = word := Option.some.inj same
    decide
  have painted : (segmentsOf .standard line).filterMap painting? =
      [("\x1b[35m", "Ko"), ("\x1b[34m", "Tāmaki Makaurau")] := by decide +kernel
  have unknown : (Catalog.standard.read line).filterMap unknownWord? = ["waka"] := by
    decide +kernel
  have coloured : (highlight? .standard line).getD line =
      "\x1b[35mKo\x1b[0m \x1b[34mTāmaki Makaurau\x1b[0m waka!" := by decide +kernel
  obtain ⟨runs, whole, _, _, paintings, unpainted, shown⟩ :=
    coloured_as_read .standard words short plain noCommand
  exact ⟨short, plain, noCommand, runs, whole, paintings.symm.trans painted,
    unpainted.trans unknown, shown.symm.trans coloured⟩

end Highlight

end SentenceCards
