import SentenceCards.Proofs.Grammar.Hints

/-!
# Hints that announce a finished sentence

A hint announces a finished sentence when the verdict accepts the cards, and with one exception
only then: the hint on two cards of a classifying sentence asks whether the second one is a noun and
not whether it reads as an article (`announced_iff_valid_or_article`).
-/

namespace SentenceCards

namespace Pattern

/-- The hints that say that the sentence is finished. -/
def announcements : Pattern → List String
  | ko => [
      "Your sentence is complete! (Optional: add a demonstrative)",
      "Perfect sentence with demonstrative!"]
  | he => [
      "Complete 2-card sentence! (Optional: add subject for 3-card sentence)",
      "Perfect He classification sentence!"]
  | equative => ["Perfect equative sentence!"]
  | keiTe => [
      "Perfect 3-card sentence! (Optional: add intensifier or location)",
      "Great sentence with intensifier!",
      "Excellent sentence with location!"]

def Announces (pattern : Pattern) (cards : List Card) : Prop :=
  ∃ hint ∈ pattern.announcements, pattern.hint cards = some hint

variable {pattern : Pattern} {cards : List Card}

theorem not_announces (unlisted : ∀ text, pattern.hint cards = some text →
    text ∉ pattern.announcements) : ¬ pattern.Announces cards := by
  rintro ⟨text, listed, given⟩
  exact unlisted text given listed

/-- A hint that goes by the verdict announces a finished sentence if the verdict accepts it. -/
theorem announces_iff_of_judged {judged : Bool} {finished unfinished : String}
    (given : pattern.hint cards = some (if judged then finished else unfinished))
    (judges : (pattern.judge .annotate cards none).valid = judged)
    (announced : finished ∈ pattern.announcements)
    (unannounced : unfinished ∉ pattern.announcements) :
    pattern.Announces cards ↔ Grammatical pattern cards := by
  rw [← pattern.judge_valid_iff .annotate cards none, judges]
  cases judged with
  | true => exact iff_of_true ⟨finished, announced, given⟩ rfl
  | false =>
      refine iff_of_false ?_ Bool.false_ne_true
      rintro ⟨hint, listed, same⟩
      obtain rfl : unfinished = hint := Option.some.inj (given.symm.trans same)
      exact unannounced listed

end Pattern

attribute [local simp, local grind] Pattern.announcements

namespace Identification

theorem announces_three_iff (ko article noun : Card) :
    Pattern.ko.Announces [ko, article, noun] ↔ Grammatical .ko [ko, article, noun] := by
  rw [← Pattern.ko.judge_valid_iff .annotate [ko, article, noun] none]
  constructor
  · rintro ⟨text, listed, given⟩
    by_contra rejected
    have silent : Pattern.ko.hint [ko, article, noun] = none := if_neg rejected
    rw [silent] at given
    cases given
  · intro accepted
    exact ⟨_, List.mem_cons_self, if_pos accepted⟩

theorem announces_iff (cards : List Card) : Pattern.ko.Announces cards ↔ Grammatical .ko cards := by
  match cards with
  | [] | [_] | [_, _] =>
      refine iff_of_false (Pattern.not_announces fun text given => ?_) ?_
      · simp only [Pattern.hint, hint] at given
        grind
      · intro grammatical
        cases grammatical
  | [ko, article, noun] => exact announces_three_iff ko article noun
  | _ :: _ :: _ :: _ :: _ => exact Pattern.announces_iff_of_judged rfl rfl (by simp) (by simp)

end Identification

namespace Classification

/-- He stands before an article that is a noun by its category. -/
def TakesArticleForNoun (cards : List Card) : Prop :=
  ∃ he noun : Card, cards = [he, noun] ∧ he.surface = "He" ∧ noun.category = .noun ∧
    noun.ReadsArticle

theorem announces_two_iff (he noun : Card) :
    Pattern.he.Announces [he, noun] ↔ he.surface = "He" ∧ noun.category = .noun := by
  rw [← isA_iff]
  constructor
  · rintro ⟨text, listed, given⟩
    simp only [Pattern.hint, hint] at given
    grind
  · rintro ⟨leads, isNoun⟩
    refine ⟨_, List.mem_cons_self, ?_⟩
    simp [Pattern.hint, hint, leads, isNoun]

theorem announces_iff (cards : List Card) :
    Pattern.he.Announces cards ↔ Grammatical .he cards ∨ TakesArticleForNoun cards := by
  match cards with
  | [he, noun] =>
      rw [announces_two_iff]
      constructor
      · rintro ⟨leads, thing⟩
        by_cases article : noun.ReadsArticle
        · exact .inr ⟨he, noun, rfl, leads, thing, article⟩
        · exact .inl (.classifying leads article thing)
      · rintro (grammatical | ⟨_, _, same, leads, thing, _⟩)
        · cases grammatical with
          | classifying leads _ thing => exact ⟨leads, thing⟩
        · cases same
          exact ⟨leads, thing⟩
  | [_, _, _] =>
      rw [Pattern.announces_iff_of_judged rfl rfl (by simp) (by simp)]
      simp [TakesArticleForNoun]
  | [] | [_] | _ :: _ :: _ :: _ :: _ =>
      refine iff_of_false (Pattern.not_announces fun text given => ?_) ?_
      · simp only [Pattern.hint, hint] at given
        grind
      · rintro (grammatical | ⟨_, _, same, _⟩)
        · cases grammatical
        · cases same

end Classification

namespace Equation

theorem announces_iff (cards : List Card) :
    Pattern.equative.Announces cards ↔ Grammatical .equative cards := by
  match cards with
  | [] | [_] | [_, _] | [_, _, _] | _ :: _ :: _ :: _ :: _ :: _ =>
      refine iff_of_false (Pattern.not_announces fun text given => ?_) ?_
      · simp only [Pattern.hint, hint] at given
        grind
      · intro grammatical
        cases grammatical
  | [_, _, _, _] => exact Pattern.announces_iff_of_judged rfl rfl (by simp) (by simp)

end Equation

namespace Predication

theorem announces_iff (cards : List Card) :
    Pattern.keiTe.Announces cards ↔ Grammatical .keiTe cards := by
  match cards with
  | [] | [_] | [_, _] | _ :: _ :: _ :: _ :: _ :: _ :: _ =>
      refine iff_of_false (Pattern.not_announces fun text given => ?_) ?_
      · simp only [Pattern.hint, hint] at given
        grind
      · intro grammatical
        cases grammatical
  | [_, _, _] | [_, _, _, _] | [_, _, _, _, _] =>
      exact Pattern.announces_iff_of_judged rfl rfl (by simp) (by simp)

end Predication

/-- A hint announces a finished sentence exactly if the verdict without a target accepts the cards,
or if He stands before an article that is a noun by its category. -/
theorem announced_iff_valid_or_article (pattern : Pattern) (style : PluralStyle)
    (cards : List Card) :
    pattern.Announces cards ↔
      (pattern.judge style cards none).valid = true ∨
        pattern = .he ∧ Classification.TakesArticleForNoun cards := by
  rw [pattern.judge_valid_iff style cards none]
  cases pattern with
  | ko => simp [Identification.announces_iff]
  | he => simp [Classification.announces_iff]
  | equative => simp [Equation.announces_iff]
  | keiTe => simp [Predication.announces_iff]

/-- The noun `ngā`, which means a breath, after He. -/
def heNgaa : List Card := [
  { id := "p_he", surface := "He", gloss := "a", category := .particle, colour := .purple,
    marks := none },
  { id := "n_nga", surface := "ngā", gloss := "breath", category := .noun, colour := .blue,
    marks := none }]

/-- The hint says that `He ngā` is finished, and the verdict rejects it. -/
theorem article_announced_as_noun :
    ¬ ∀ (pattern : Pattern) (cards : List Card),
      pattern.Announces cards ↔ (pattern.judge .annotate cards none).valid = true := by
  intro agrees
  have announced : Pattern.he.Announces heNgaa :=
    ⟨"Complete 2-card sentence! (Optional: add subject for 3-card sentence)", List.mem_cons_self,
      by decide +kernel⟩
  have rejected : (Pattern.he.judge .annotate heNgaa none).valid = false := by decide +kernel
  have accepted := (agrees .he heNgaa).mp announced
  exact Bool.false_ne_true (rejected.symm.trans accepted)

end SentenceCards
