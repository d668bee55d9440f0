import SentenceCards.Challenge.Authoring
import SentenceCards.Proofs.Catalog.Punctuation
import SentenceCards.Proofs.Catalog.Runs
import SentenceCards.Proofs.Grammar.Alike
import SentenceCards.Proofs.Text.Joining
import SentenceCards.Proofs.Text.Lowercase

/-!
# Challenges solved by their own cards

A challenge made from a target sentence of catalog words asks for the cards that the sentence was
read as.  Reading leaves out the punctuation at the ends of words and does not insist on letter
case, but the target is compared with the cards as it is written.  So the required cards solve the
challenge exactly when the target is spelled as it was read (`authored_solved_iff`).
-/

namespace SentenceCards

/-- No word of the text ends in punctuation, and every run of words that was read as a card is
spelled as on the card. -/
structure Catalog.SpelledAsRead (catalog : Catalog) (text : String) : Prop where
  unstopped : Unstopped text
  spelled : ∀ run card, (run, Token.known card) ∈ catalog.runs text →
    card.surface = " ".intercalate run

theorem exists_pieces {runs : List (List String × Token)}
    (known : ∀ word, Token.unknown word ∉ runs.map Prod.snd) :
    ∃ pieces : List (List String × Card),
      runs = pieces.map fun piece => (piece.1, .known piece.2) := by
  induction runs with
  | nil => exact ⟨[], rfl⟩
  | cons piece rest ih =>
      obtain ⟨run, token⟩ := piece
      obtain ⟨pieces, same⟩ := ih fun word member => known word (List.mem_cons_of_mem _ member)
      cases token with
      | known card => exact ⟨(run, card) :: pieces, by rw [same, List.map_cons]⟩
      | unknown word => exact absurd List.mem_cons_self (known word)

section Pieces

variable {catalog : Catalog} {text : String} {pieces : List (List String × Card)}
  (read : catalog.runs text = pieces.map fun piece => (piece.1, .known piece.2))

include read

theorem mem_runs_of_mem_pieces {piece : List String × Card} (member : piece ∈ pieces) :
    (piece.1, Token.known piece.2) ∈ catalog.runs text := by
  rw [read]
  exact List.mem_map.mpr ⟨piece, member, rfl⟩

theorem flatten_pieces : (pieces.map Prod.fst).flatten = bareWords text := by
  rw [← catalog.flatten_runs, read, List.map_map]
  rfl

theorem read_eq_map_known : catalog.read text = (pieces.map Prod.snd).map .known := by
  rw [← catalog.map_snd_runs, read, List.map_map, List.map_map]
  rfl

theorem joined_pieces :
    " ".intercalate (pieces.map fun piece => " ".intercalate piece.1) =
      " ".intercalate (bareWords text) := by
  rw [← flatten_pieces read, ← Text.joined_flatten]
  · rw [List.map_map]
    rfl
  · intro run member
    obtain ⟨piece, inside, rfl⟩ := List.mem_map.mp member
    exact Catalog.nonempty_of_mem_readRuns (mem_runs_of_mem_pieces read inside)

/-- The cards have as many of each space and punctuation mark as the runs that they were read
from. -/
theorem countP_pieces {p : Char → Bool} (below : ∀ c, p c = true → Text.BelowLetters c) :
    pieces.map (fun piece => piece.2.surface.toList.countP p) =
      pieces.map fun piece => (" ".intercalate piece.1).toList.countP p := by
  apply List.map_congr_left
  intro piece member
  obtain ⟨_, spelled⟩ := Catalog.reading_of_mem_runs (mem_runs_of_mem_pieces read member)
  rw [← Text.countP_lowercase below, spelled, Text.countP_lowercase below]

omit read in
theorem sentence_pieces :
    sentence (pieces.map Prod.snd) = " ".intercalate (pieces.map fun piece => piece.2.surface) := by
  rw [sentence, List.map_map]
  rfl

theorem sentence_of_spelledAsRead (spelled : catalog.SpelledAsRead text) :
    sentence (pieces.map Prod.snd) = Text.collapse text := by
  have surfaces : pieces.map (fun piece => piece.2.surface) =
      pieces.map fun piece => " ".intercalate piece.1 := by
    apply List.map_congr_left
    intro piece member
    exact spelled.spelled piece.1 piece.2 (mem_runs_of_mem_pieces read member)
  calc
    sentence (pieces.map Prod.snd) = " ".intercalate (bareWords text) := by
      rw [sentence_pieces, surfaces, joined_pieces read]
    _ = Text.collapse text := by rw [bareWords_eq_wordsOf spelled.unstopped, Text.collapse]

/-- No card has the punctuation that was left out, so none was if the sentences are the same. -/
theorem unstopped_of_sentence_eq
    (same : sentence (pieces.map Prod.snd) = Text.collapse text) : Unstopped text := by
  have noSpace : isStop ' ' = false := by decide
  have below : ∀ c, isStop c = true → Text.BelowLetters c := by
    intro c stop
    simp only [isStop, Bool.or_eq_true, beq_iff_eq] at stop
    rcases stop with ((rfl | rfl) | rfl) | rfl <;> decide
  have stops : (sentence (pieces.map Prod.snd)).toList.countP isStop =
      (" ".intercalate (bareWords text)).toList.countP isStop := by
    rw [sentence_pieces, ← joined_pieces read, Text.countP_joined noSpace,
      Text.countP_joined noSpace, List.countP_flatten, List.countP_flatten, List.map_map,
      List.map_map, List.map_map, List.map_map]
    exact congrArg List.sum (countP_pieces read below)
  rw [same, Text.collapse, Text.countP_joined noSpace, Text.countP_joined noSpace] at stops
  exact unstopped_of_countP_eq stops.symm

theorem spelledAsRead_of_sentence_eq
    (same : sentence (pieces.map Prod.snd) = Text.collapse text) :
    catalog.SpelledAsRead text := by
  have unstopped := unstopped_of_sentence_eq read same
  have below : ∀ c, (c == ' ') = true → Text.BelowLetters c := by
    intro c space
    rw [eq_of_beq space]
    decide
  -- A surface has as many spaces as its run, so the two joined texts come apart in the same places.
  have surfaces : pieces.map (fun piece => piece.2.surface) =
      pieces.map fun piece => " ".intercalate piece.1 := by
    apply Text.eq_of_joined_eq
    · rw [List.map_map, List.map_map]
      exact countP_pieces read below
    · rw [joined_pieces read, bareWords_eq_wordsOf unstopped, ← Text.collapse, ← same,
        sentence_pieces]
  refine ⟨unstopped, ?_⟩
  intro run card member
  rw [read] at member
  obtain ⟨piece, inside, equal⟩ := List.mem_map.mp member
  cases equal
  exact List.map_inj_left.mp surfaces piece inside

theorem required_ofTarget (id : String) (pattern : Pattern) (gloss : String) :
    (Challenge.ofTarget catalog id pattern ⟨text, gloss⟩).required =
      (pieces.map Prod.snd).map Card.id := by
  simp only [Challenge.ofTarget, read_eq_map_known read, List.map_map]
  rfl

theorem mapM_card_pieces :
    ((pieces.map Prod.snd).map Card.id).mapM catalog.card = .ok (pieces.map Prod.snd) := by
  have listed : ∀ piece ∈ pieces, catalog.card piece.2.id = .ok piece.2 := fun piece member =>
    (Catalog.reading_of_mem_runs (mem_runs_of_mem_pieces read member)).1
  clear read
  induction pieces with
  | nil => rfl
  | cons piece rest ih =>
      have here := listed piece List.mem_cons_self
      have later := ih fun other member => listed other (List.mem_cons_of_mem _ member)
      simp only [List.map_cons, List.mapM_cons, here, later]
      rfl

end Pieces

/-- The cards that a challenge made from a sentence of catalog words requires are found in the
catalog.  They make up the target sentence, and if they are valid they are judged correct, exactly
when the target is spelled as it was read. -/
theorem authored_solved_iff (catalog : Catalog) (id : String) (pattern : Pattern) (target : Target)
    (known : ∀ word, Token.unknown word ∉ catalog.read target.surface) :
    let challenge := Challenge.ofTarget catalog id pattern target
    ∃ cards, challenge.required.mapM catalog.card = .ok cards ∧
      (sentence cards = target.normalized ↔ catalog.SpelledAsRead target.surface) ∧
      ∀ style, (pattern.judge style cards challenge.target).valid = true →
        ((pattern.judge style cards challenge.target).correct = true ↔
          catalog.SpelledAsRead target.surface) := by
  intro challenge
  rw [← catalog.map_snd_runs] at known
  obtain ⟨pieces, read⟩ := exists_pieces known
  have solves : sentence (pieces.map Prod.snd) = target.normalized ↔
      catalog.SpelledAsRead target.surface :=
    ⟨spelledAsRead_of_sentence_eq read, sentence_of_spelledAsRead read⟩
  refine ⟨pieces.map Prod.snd, ?_, solves, ?_⟩
  · have required : challenge.required = (pieces.map Prod.snd).map Card.id :=
      required_ofTarget read id pattern target.gloss
    rw [required]
    exact mapM_card_pieces read
  · intro style valid
    exact ((pattern.judge_decides style _).correct_iff valid).trans solves

/-- The catalog of the words for saying which thing something is. -/
def Catalog.identifying : Catalog := .ofWords Vocabulary.identifying

def koTeWhare : List Card := ["p_ko", "art_te", "n_whare"].map Catalog.identifying.cardOrStandIn

theorem authored_solved_iff_koTeWhare :
    let target : Target := ⟨"Ko te whare", "the house"⟩
    (∀ word, Token.unknown word ∉ Catalog.identifying.read target.surface) ∧
      Catalog.identifying.SpelledAsRead target.surface := by
  intro target
  have tokens : Catalog.identifying.read target.surface = koTeWhare.map .known := by decide +kernel
  have known : ∀ word, Token.unknown word ∉ Catalog.identifying.read target.surface := by
    simp [tokens]
  have required : (Challenge.ofTarget .identifying "c" .ko target).required.mapM
      Catalog.identifying.card = .ok koTeWhare := by decide +kernel
  have same : sentence koTeWhare = target.normalized := by decide +kernel
  obtain ⟨cards, found, solves, _⟩ := authored_solved_iff .identifying "c" .ko target known
  obtain rfl : koTeWhare = cards := Except.ok.inj (required.symm.trans found)
  exact ⟨known, solves.mp same⟩

/-- The end of a sentence is not read, so a target with a full stop is not made up by its own
cards. -/
theorem stopped_target_unsolved :
    ¬ ∀ (catalog : Catalog) (id : String) (pattern : Pattern) (target : Target),
      (∀ word, Token.unknown word ∉ catalog.read target.surface) →
      ∃ cards, (Challenge.ofTarget catalog id pattern target).required.mapM catalog.card =
          .ok cards ∧
        sentence cards = target.normalized ∧
        ∀ style, (pattern.judge style cards (some target)).valid = true →
          (pattern.judge style cards (some target)).correct = true := by
  intro solved
  let target : Target := ⟨"Ko te whare.", "the house"⟩
  have tokens : Catalog.identifying.read target.surface = koTeWhare.map .known := by decide +kernel
  have required : (Challenge.ofTarget .identifying "c" .ko target).required.mapM
      Catalog.identifying.card = .ok koTeWhare := by decide +kernel
  have other : sentence koTeWhare ≠ target.normalized := by decide +kernel
  obtain ⟨cards, found, same, _⟩ := solved .identifying "c" .ko target (by simp [tokens])
  obtain rfl : koTeWhare = cards := Except.ok.inj (required.symm.trans found)
  exact other same

end SentenceCards
