import Mathlib.Tactic.IntervalCases
import SentenceCards.Catalog.Basic
import SentenceCards.Proofs.Grammar.Sentences

/-!
# Hints on the way to a sentence

Cards that begin a sentence of a pattern always get a hint.  It tells the learner what comes next,
with one exception: the longer predicating sentences, of four and five cards, are taken for a wrong
sentence of one card less when only their last card is missing (`hint_on_the_way`).
-/

namespace SentenceCards

/-- How a hint begins that finds fault with the cards. -/
def correctiveOpenings : List String :=
  ["Check", "After", "He does NOT", "He sentences only need", "Kei te sentences need"]

def isCorrective (hint : String) : Bool :=
  correctiveOpenings.any fun opening => opening.toList.isPrefixOf hint.toList

-- Whether a given text is corrective is found by comparing the characters.
attribute [local simp] isCorrective correctiveOpenings List.isPrefixOf

/-- There is a hint, and it finds fault with the cards or not. -/
def HintIs (hint : Option String) (corrective : Bool) : Prop :=
  ∃ text, hint = some text ∧ isCorrective text = corrective

namespace Identification

variable {ko article noun : Card} (leads : ko.surface = "Ko") (definite : article.ReadsArticle)

include leads

theorem hint_leader : HintIs (hint [ko]) false :=
  ⟨_, if_pos leads, by simp⟩

include definite

theorem hint_article : HintIs (hint [ko, article]) false := by
  have reads : article.reads articleForms = true := (reads_articleForms_iff article).mpr definite
  refine ⟨"Perfect! Now add a noun (thing)", ?_, by simp⟩
  simp [hint, leads, reads]

theorem hint_noun (thing : noun.category = .noun) : HintIs (hint [ko, article, noun]) false := by
  have valid : (verdict .annotate [ko, article, noun] none).valid = true :=
    (Pattern.ko.judge_valid_iff .annotate _ none).mpr (.identifying leads definite thing)
  exact ⟨_, if_pos valid, by simp⟩

end Identification

namespace Classification

variable {he noun : Card} (leads : he.surface = "He")

include leads

theorem hint_leader : HintIs (hint [he]) false :=
  ⟨_, if_pos leads, by simp⟩

theorem hint_noun (thing : noun.category = .noun) : HintIs (hint [he, noun]) false := by
  have isNoun : noun.isA .noun = true := (isA_iff noun .noun).mpr thing
  refine ⟨"Complete 2-card sentence! (Optional: add subject for 3-card sentence)", ?_,
    by simp⟩
  simp [hint, leads, isNoun]

end Classification

namespace Equation

variable {ko pronoun article : Card} (leads : ko.surface = "Ko")

include leads

theorem hint_leader : HintIs (hint [ko]) false :=
  ⟨_, if_pos leads, by simp⟩

variable (who : pronoun.category = .pronoun)

include who

theorem hint_pronoun : HintIs (hint [ko, pronoun]) false := by
  have isPronoun : pronoun.isA .pronoun = true := (isA_iff pronoun .pronoun).mpr who
  refine ⟨"Perfect! Now add te or ngā", ?_, by simp⟩
  simp [hint, leads, isPronoun]

theorem hint_article (definite : article.ReadsArticle) :
    HintIs (hint [ko, pronoun, article]) false := by
  have isPronoun : pronoun.isA .pronoun = true := (isA_iff pronoun .pronoun).mpr who
  have reads : article.reads articleForms = true := (reads_articleForms_iff article).mpr definite
  refine ⟨"Almost there! Now add a noun to complete the sentence", ?_, by simp⟩
  simp [hint, leads, isPronoun, reads]

end Equation

namespace Predication

variable {marker second third fourth : Card}

section Marked

variable (leads : marker.MarksTense)

include leads

theorem opens_of_marksTense (rest : List Card) : opens (marker :: rest) = true :=
  (isSome_ofMarker?_iff marker).mpr leads

theorem hint_marker : HintIs (hint [marker]) false :=
  ⟨_, if_pos (opens_of_marksTense leads []), by simp⟩

theorem hint_predicate (asserts : second.IsOneOf .adjective .verb) :
    HintIs (hint [marker, second]) false := by
  have opening := opens_of_marksTense leads [second]
  have predicate : isPredicate second = true := (isPredicate_iff second).mpr asserts
  refine ⟨"Great! Now add a pronoun (who?)", ?_, by simp⟩
  simp [hint, opening, predicate]

theorem hint_intensifier (degree : second.category = .intensifier) :
    HintIs (hint [marker, second]) false := by
  have opening := opens_of_marksTense leads [second]
  have isIntensifier : second.isA .intensifier = true := (isA_iff second .intensifier).mpr degree
  have silent : isPredicate second = false := by simp [isPredicate, Card.isA, degree]
  refine ⟨"Good intensifier! Now add adjective/verb, then pronoun", ?_, by simp⟩
  simp [hint, opening, silent, isIntensifier]

end Marked

/-- From three cards on the hint goes by whether the cards are a sentence as they are. -/
theorem hintIs_of_judged {cards : List Card} {fine faulting : String} {corrective : Bool}
    (given : hint cards = some (if (verdict cards none).valid then fine else faulting))
    (clean : isCorrective fine = false) (faults : isCorrective faulting = true)
    (judged : (verdict cards none).valid = !corrective) : HintIs (hint cards) corrective := by
  cases corrective with
  | false => exact ⟨fine, given.trans (congrArg some (if_pos judged)), clean⟩
  | true => exact ⟨faulting, given.trans (congrArg some (if_neg (by simp [judged]))), faults⟩

theorem invalid_of_not_grammatical {cards : List Card} (other : ¬ Grammatical .keiTe cards) :
    (verdict cards none).valid = false :=
  Bool.eq_false_iff.mpr fun valid =>
    other ((Pattern.keiTe.judge_valid_iff .annotate cards none).mp valid)

theorem hint_located (leads : marker.MarksTense) (acts : second.category = .verb)
    (who : third.category = .pronoun) : HintIs (hint [marker, second, third]) false := by
  apply hintIs_of_judged rfl (by simp) (by simp)
  have grammatical : Grammatical .keiTe [marker, second, third] :=
    .predicating leads (.inr acts) who
  exact (Pattern.keiTe.judge_valid_iff .annotate _ none).mpr grammatical

/-- An intensifier is no predicate, so without its last card a sentence with one looks wrong. -/
theorem hint_intensified (degree : second.category = .intensifier) :
    HintIs (hint [marker, second, third]) true := by
  apply hintIs_of_judged rfl (by simp) (by simp)
  apply invalid_of_not_grammatical
  intro grammatical
  cases grammatical with
  | predicating _ asserts =>
      rcases asserts with asserts | asserts <;> rw [asserts] at degree <;> cases degree

/-- Four cards need an intensifier, so without its last card a sentence of place looks wrong. -/
theorem hint_locative (acts : second.category = .verb) :
    HintIs (hint [marker, second, third, fourth]) true := by
  apply hintIs_of_judged rfl (by simp) (by simp)
  apply invalid_of_not_grammatical
  intro grammatical
  cases grammatical with
  | intensifying _ degree =>
      rw [degree] at acts
      cases acts

end Predication

/-- Whether only the last card is missing from one of the longer predicating sentences. -/
def lacksLastOfLong (pattern : Pattern) (cards sentence : List Card) : Bool :=
  pattern == .keiTe && 4 ≤ sentence.length && cards.length + 1 == sentence.length

theorem Grammatical.hint_take {pattern : Pattern} {sentence : List Card}
    (grammatical : Grammatical pattern sentence) {count : Nat} (positive : 0 < count)
    (short : count < sentence.length) :
    HintIs (pattern.hint (sentence.take count))
      (lacksLastOfLong pattern (sentence.take count) sentence) := by
  cases grammatical with
  | identifying leads definite =>
      have bound : count < 3 := short
      interval_cases count
      · exact Identification.hint_leader leads
      · exact Identification.hint_article leads definite
  | pointing leads definite thing =>
      have bound : count < 4 := short
      interval_cases count
      · exact Identification.hint_leader leads
      · exact Identification.hint_article leads definite
      · exact Identification.hint_noun leads definite thing
  | classifying leads =>
      have bound : count < 2 := short
      interval_cases count
      exact Classification.hint_leader leads
  | ascribing leads bare thing =>
      have bound : count < 3 := short
      interval_cases count
      · exact Classification.hint_leader leads
      · exact Classification.hint_noun leads thing
  | equating leads who definite =>
      have bound : count < 4 := short
      interval_cases count
      · exact Equation.hint_leader leads
      · exact Equation.hint_pronoun leads who
      · exact Equation.hint_article leads who definite
  | predicating leads asserts =>
      have bound : count < 3 := short
      interval_cases count
      · exact Predication.hint_marker leads
      · exact Predication.hint_predicate leads asserts
  | intensifying leads degree =>
      have bound : count < 4 := short
      interval_cases count
      · exact Predication.hint_marker leads
      · exact Predication.hint_intensifier leads degree
      · exact Predication.hint_intensified degree
  | locating leads acts who =>
      have bound : count < 5 := short
      interval_cases count
      · exact Predication.hint_marker leads
      · exact Predication.hint_predicate leads (.inr acts)
      · exact Predication.hint_located leads acts who
      · exact Predication.hint_locative acts

/-- Cards that begin a sentence of a pattern always get a hint.  It finds fault with the cards
exactly if they lack only the last card of a predicating sentence of four or five cards. -/
theorem hint_on_the_way (pattern : Pattern) (style : PluralStyle) (target : Option Target)
    {cards sentence : List Card} (begun : cards ≠ []) (onTheWay : cards <+: sentence)
    (unfinished : cards ≠ sentence)
    (accepted : (pattern.judge style sentence target).valid = true) :
    ∃ hint, pattern.hint cards = some hint ∧
      (isCorrective hint = true ↔
        pattern = .keiTe ∧ 4 ≤ sentence.length ∧ cards.length + 1 = sentence.length) := by
  have grammatical := (pattern.judge_valid_iff style sentence target).mp accepted
  have positive : 0 < cards.length := List.length_pos_iff.mpr begun
  have short : cards.length < sentence.length := by
    rcases Nat.lt_or_eq_of_le onTheWay.length_le with shorter | same
    · exact shorter
    · exact absurd (onTheWay.eq_of_length same) unfinished
  have taken : sentence.take cards.length = cards := (List.prefix_iff_eq_take.mp onTheWay).symm
  obtain ⟨hint, given, corrective⟩ := grammatical.hint_take positive short
  rw [taken] at given corrective
  refine ⟨hint, given, ?_⟩
  rw [corrective]
  simp [lacksLastOfLong, and_assoc]

def keiTeTinoPaiAu : List Card :=
  ["tm_keite", "int_tino", "adj_pai", "pr_au"].map Catalog.standard.cardOrStandIn

theorem keiTeTinoPaiAu_valid : (Pattern.keiTe.judge .annotate keiTeTinoPaiAu none).valid = true := by
  decide +kernel

theorem hint_on_the_way_keiTeTino :
    let cards := keiTeTinoPaiAu.take 2
    cards ≠ [] ∧ cards <+: keiTeTinoPaiAu ∧ cards ≠ keiTeTinoPaiAu ∧
      (Pattern.keiTe.judge .annotate keiTeTinoPaiAu none).valid = true ∧
      ∃ hint, Pattern.keiTe.hint cards = some hint ∧ isCorrective hint = false := by
  intro cards
  have begun : cards ≠ [] := by decide +kernel
  have onTheWay : cards <+: keiTeTinoPaiAu := List.take_prefix 2 keiTeTinoPaiAu
  have unfinished : cards ≠ keiTeTinoPaiAu := by decide +kernel
  have two : ¬ (Pattern.keiTe = .keiTe ∧ 4 ≤ keiTeTinoPaiAu.length ∧
      cards.length + 1 = keiTeTinoPaiAu.length) := by decide +kernel
  obtain ⟨hint, given, corrective⟩ :=
    hint_on_the_way .keiTe .annotate none begun onTheWay unfinished keiTeTinoPaiAu_valid
  refine ⟨begun, onTheWay, unfinished, keiTeTinoPaiAu_valid, hint, given, ?_⟩
  exact Bool.eq_false_iff.mpr fun faults => two (corrective.mp faults)

/-- On the way to `Kei te tino pai au` the first three cards are found fault with. -/
theorem long_sentence_faulted_on_the_way :
    ¬ ∀ (pattern : Pattern) (style : PluralStyle) (target : Option Target)
        (cards sentence : List Card), cards ≠ [] → cards <+: sentence → cards ≠ sentence →
      (pattern.judge style sentence target).valid = true →
      ∃ hint, pattern.hint cards = some hint ∧ isCorrective hint = false := by
  intro encouraged
  have faulted : Pattern.keiTe.hint (keiTeTinoPaiAu.take 3) =
      some "Check pattern: Kei te + adjective/verb + pronoun" := by decide +kernel
  obtain ⟨hint, given, clean⟩ := encouraged .keiTe .annotate none (keiTeTinoPaiAu.take 3)
    keiTeTinoPaiAu (by decide +kernel) (List.take_prefix 3 keiTeTinoPaiAu) (by decide +kernel)
    keiTeTinoPaiAu_valid
  obtain rfl := Option.some.inj (faulted.symm.trans given)
  exact absurd clean (by decide +kernel)

end SentenceCards
