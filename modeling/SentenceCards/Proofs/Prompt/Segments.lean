import SentenceCards.Proofs.Catalog.Punctuation
import SentenceCards.Prompt.Highlight

/-!
# The segments of a highlighted line

A line is highlighted segment by segment.  The segments put together are the line, whatever white
space and words it is made of, so nothing but terminal codes comes into it.  A painted segment is a
command, a number or a run of words that is a surface of the catalog, and has no white space at its
ends (`highlighted_by_codes_alone`).
-/

namespace SentenceCards

namespace Text

/-- The text begins and ends with characters that are not white space. -/
def IsTight (text : List Char) : Prop :=
  (∃ c, text.head? = some c ∧ isBlank c = false) ∧
    ∃ c, text.getLast? = some c ∧ isBlank c = false

theorem IsWord.isTight {word : List Char} (isWord : IsWord word) : IsTight word := by
  obtain ⟨nonempty, letters⟩ := isWord
  exact ⟨⟨_, List.head?_eq_some_head nonempty, letters _ (List.head_mem nonempty)⟩,
    ⟨_, List.getLast?_eq_some_getLast nonempty, letters _ (List.getLast_mem nonempty)⟩⟩

theorem IsTight.append {front back : List Char} (gap : List Char) (tight : IsTight front)
    (tightToo : IsTight back) : IsTight (front ++ (gap ++ back)) := by
  obtain ⟨⟨first, begins, solid⟩, _⟩ := tight
  obtain ⟨_, last, ends, solidToo⟩ := tightToo
  exact ⟨⟨first, by simp [begins], solid⟩, ⟨last, by simp [ends], solidToo⟩⟩

end Text

/-- The parameters that a terminal is given to switch to a colour. -/
def Colour.parameters : Colour → String
  | .purple => "35"
  | .gray => "90"
  | .blue => "34"
  | .green => "32"
  | .red => "31"
  | .orange => "38;5;208"
  | .yellow => "33"
  | .lightBlue => "96"
  | .brown => "38;5;130"
  | .pink => "95"
  | .teal => "36"

theorem Colour.code_eq (colour : Colour) : colour.code = "\x1b[" ++ colour.parameters ++ "m" := by
  cases colour <;> decide

namespace Highlight

open Text (Spaced)

/-- Why a text is painted with a code: it is a command, a number, or it is written like a word of
the catalog, apart from punctuation at its end, and the code is the one of the word's colour. -/
inductive PaintedFor (catalog : Catalog) : (code : String) → (text : List Char) → Prop where
  | command {text : List Char} (begins : text.head? = some ':') :
      PaintedFor catalog "\x1b[36m" text
  | number {text : List Char} (digits : ∀ c ∈ text, c.isDigit = true) :
      PaintedFor catalog "\x1b[35m" text
  | surface {text : List Char} {word : Word}
      (found : catalog.bySurface?
        (String.ofList (text.rdropWhile (· ∈ ['.', ',', '!', '?']))) = some word) :
      PaintedFor catalog ("\x1b[" ++ word.colour.parameters ++ "m") text

/-- A piece of a line as it is shown: as it stands, or after the code with which it is painted and
before the code that ends every style. -/
def wrapped : Option String × String → String
  | (none, text) => text
  | (some code, text) => code ++ text ++ "\x1b[0m"

/-- The text of a segment, with the code if it is painted. -/
def pieceOf : Segment → Option String × String
  | .plain text => (none, String.ofList text)
  | .painted code text => (some code, String.ofList text)

theorem toList_snd_pieceOf (segment : Segment) : (pieceOf segment).2.toList = segment.text := by
  cases segment <;> exact String.toList_ofList

theorem toList_wrapped_pieceOf (segment : Segment) :
    (wrapped (pieceOf segment)).toList = segment.shown := by
  cases segment with
  | plain text => exact String.toList_ofList
  | painted code text => rfl

variable {catalog : Catalog}

section Runs

variable {first : Spaced} {rest : List Spaced} {count : Nat}

/-- A run and the words behind it make up all the words. -/
theorem runText_append_drop (positive : 0 < count) :
    runText ((first :: rest).take count) ++ (rest.drop (count - 1)).flatMap Spaced.text =
      first.word ++ rest.flatMap Spaced.text := by
  obtain ⟨count, rfl⟩ := Nat.exists_eq_succ_of_ne_zero (Nat.pos_iff_ne_zero.mp positive)
  calc
    runText ((first :: rest).take (count + 1)) ++ (rest.drop count).flatMap Spaced.text =
        first.word ++ ((rest.take count).flatMap Spaced.text ++
          (rest.drop count).flatMap Spaced.text) := List.append_assoc _ _ _
    _ = first.word ++ rest.flatMap Spaced.text := by
      rw [← List.flatMap_append, List.take_append_drop]

theorem isTight_append_pieces {front : List Char} (tight : Text.IsTight front)
    (areWords : ∀ piece ∈ rest, Text.IsWord piece.word) :
    Text.IsTight (front ++ rest.flatMap Spaced.text) := by
  induction rest generalizing front with
  | nil => simpa using tight
  | cons piece rest ih =>
      obtain ⟨isWord, areWords⟩ := List.forall_mem_cons.mp areWords
      have longer : Text.IsTight (front ++ piece.text) := tight.append piece.gap isWord.isTight
      simpa using ih longer areWords

theorem isTight_runText {words : List Spaced} (nonempty : words ≠ [])
    (areWords : ∀ piece ∈ words, Text.IsWord piece.word) : Text.IsTight (runText words) := by
  cases words with
  | nil => exact absurd rfl nonempty
  | cons first rest =>
      obtain ⟨isWord, areWords⟩ := List.forall_mem_cons.mp areWords
      exact isTight_append_pieces isWord.isTight areWords

theorem paintedFor_of_paintedRun? {words : List Spaced} {limit : Nat} {colour : Colour}
    (finds : paintedRun? catalog words limit = some (count, colour)) :
    0 < count ∧
      PaintedFor catalog ("\x1b[" ++ colour.parameters ++ "m") (runText (words.take count)) := by
  induction limit with
  | zero => cases finds
  | succ limit ih =>
      simp only [paintedRun?] at finds
      split at finds
      next word found =>
        obtain ⟨rfl, rfl⟩ := Prod.mk.inj (Option.some.inj finds)
        rw [dropEnd_isStop] at found
        exact ⟨Nat.succ_pos limit, .surface found⟩
      next => exact ih finds

end Runs

/-- The segments put together are the words with their gaps. -/
theorem flatMap_text_segments (first : Bool) (words : List Spaced) :
    (segments catalog first words).flatMap Segment.text = words.flatMap Spaced.text := by
  fun_induction segments catalog first words with
  | case1 => rfl
  | case2 first next rest _ ih => simp [ih, Segment.text, Spaced.text]
  | case3 first next rest _ _ ih => simp [ih, Segment.text, Spaced.text]
  | case4 first next rest _ _ count colour finds ih =>
      have whole : runText ((next :: rest).take count) ++
          (rest.drop (count - 1)).flatMap Spaced.text = next.word ++ rest.flatMap Spaced.text :=
        runText_append_drop (paintedFor_of_paintedRun? finds).1
      simp [ih, Segment.text, Spaced.text, whole]
  | case5 first next rest _ _ _ ih => simp [ih, Segment.text, Spaced.text]

theorem painted_of_mem_segments {first : Bool} {words : List Spaced} {code : String}
    {text : List Char} (areWords : ∀ piece ∈ words, Text.IsWord piece.word)
    (member : .painted code text ∈ segments catalog first words) :
    PaintedFor catalog code text ∧ Text.IsTight text := by
  fun_induction segments catalog first words with
  | case1 => cases member
  | case2 first next rest command ih =>
      obtain ⟨isWord, areWords⟩ := List.forall_mem_cons.mp areWords
      simp only [List.mem_cons, reduceCtorEq, false_or, Segment.painted.injEq] at member
      rcases member with ⟨rfl, rfl⟩ | later
      · exact ⟨.command (beq_iff_eq.mp (Bool.and_eq_true_iff.mp command).2), isWord.isTight⟩
      · exact ih areWords later
  | case3 first next rest _ number ih =>
      obtain ⟨isWord, areWords⟩ := List.forall_mem_cons.mp areWords
      simp only [List.mem_cons, reduceCtorEq, false_or, Segment.painted.injEq] at member
      rcases member with ⟨rfl, rfl⟩ | later
      · exact ⟨.number (List.all_eq_true.mp number), isWord.isTight⟩
      · exact ih areWords later
  | case4 first next rest _ _ count colour finds ih =>
      obtain ⟨positive, painted⟩ := paintedFor_of_paintedRun? finds
      simp only [List.mem_cons, reduceCtorEq, false_or, Segment.painted.injEq] at member
      rw [Colour.code_eq] at member
      rcases member with ⟨rfl, rfl⟩ | later
      · have nonempty : (next :: rest).take count ≠ [] := by simp [Nat.pos_iff_ne_zero.mp positive]
        exact ⟨painted, isTight_runText nonempty fun piece inRun =>
          areWords piece (List.mem_of_mem_take inRun)⟩
      · exact ih (fun piece inRest => areWords piece
          (List.mem_cons_of_mem next (List.mem_of_mem_drop inRest))) later
  | case5 first next rest _ _ _ ih =>
      simp only [List.mem_cons, reduceCtorEq, false_or] at member
      exact ih (List.forall_mem_cons.mp areWords).2 member

theorem flatMap_text_segmentsOf (catalog : Catalog) (line : String) :
    (segmentsOf catalog line).flatMap Segment.text = line.toList := by
  have whole := Text.flatten_spaced line.toList
  rw [← List.flatMap_def] at whole
  simp only [segmentsOf, List.flatMap_append, flatMap_text_segments, List.flatMap_singleton,
    Segment.text, whole]

/-- What is shown of segments of which none is painted is their text. -/
theorem flatMap_shown_of_unpainted {found : List Segment}
    (unpainted : ∀ segment ∈ found, segment.isPainted = false) :
    found.flatMap Segment.shown = found.flatMap Segment.text := by
  rw [List.flatMap_def, List.flatMap_def]
  refine congrArg List.flatten (List.map_congr_left fun segment member => ?_)
  cases segment with
  | plain text => rfl
  | painted code text => exact absurd (unpainted _ member) (by simp [Segment.isPainted])

/-- What is shown of a line is what is shown of its segments, also if it is left as it is. -/
theorem getD_highlight? (catalog : Catalog) (line : String) :
    (highlight? catalog line).getD line =
      String.ofList ((segmentsOf catalog line).flatMap Segment.shown) := by
  simp only [highlight?]
  split
  next => rfl
  next unpainted =>
    rw [flatMap_shown_of_unpainted (by simpa using unpainted), flatMap_text_segmentsOf,
      String.ofList_toList]
    rfl

/-- A line is highlighted by terminal codes alone.  It is cut into pieces, and what is shown of it
are the pieces, some of them between a code and the code that ends it.  If none is, the line is left
as it is. -/
theorem highlighted_by_codes_alone (catalog : Catalog) (line : String) :
    ∃ pieces : List (Option String × String),
      String.join (pieces.map Prod.snd) = line ∧
        (highlight? catalog line).getD line = String.join (pieces.map wrapped) ∧
        (highlight? catalog line = none ↔ ∀ piece ∈ pieces, piece.1 = none) ∧
        ∀ code text, (some code, text) ∈ pieces →
          PaintedFor catalog code text.toList ∧ Text.IsTight text.toList := by
  refine ⟨(segmentsOf catalog line).map pieceOf, ?_, ?_, ?_, ?_⟩
  · apply String.toList_injective
    rw [String.toList_join, List.flatMap_map, List.flatMap_map, ← flatMap_text_segmentsOf catalog]
    exact congrArg (List.flatMap · _) (funext toList_snd_pieceOf)
  · apply String.toList_injective
    rw [getD_highlight?, String.toList_ofList, String.toList_join, List.flatMap_map,
      List.flatMap_map]
    exact (congrArg (List.flatMap · _) (funext toList_wrapped_pieceOf)).symm
  · have unpainted (segment : Segment) :
        (pieceOf segment).1 = none ↔ segment.isPainted = false := by
      cases segment <;> simp [pieceOf, Segment.isPainted]
    simp [highlight?, unpainted]
  · intro code text member
    obtain ⟨segment, inside, same⟩ := List.mem_map.mp member
    cases segment with
    | plain text => simp [pieceOf] at same
    | painted code text =>
        simp only [pieceOf, Prod.mk.injEq, Option.some.injEq] at same
        obtain ⟨rfl, rfl⟩ := same
        rw [String.toList_ofList]
        rcases List.mem_append.mp inside with inWords | atEnd
        · exact painted_of_mem_segments (Text.word_of_mem_spaced line.toList) inWords
        · cases List.mem_singleton.mp atEnd

example : highlight? .standard ":place 2  0 kei te!" =
    some "\x1b[36m:place\x1b[0m \x1b[35m2\x1b[0m  \x1b[35m0\x1b[0m \x1b[33mkei te!\x1b[0m" := by
  decide +kernel

end Highlight

end SentenceCards
