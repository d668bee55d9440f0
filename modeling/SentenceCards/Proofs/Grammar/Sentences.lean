import Mathlib.Data.List.Forall2
import SentenceCards.Proofs.Grammar.Verdict

/-!
# The sentences of each pattern

`Grammatical` lists the sentences of a pattern by their shapes, and `Pattern.constraints` lists in
order what a sentence has to satisfy, each with the gate that rejects it otherwise.  A verdict goes
by the constraints, one after the other.  So it accepts exactly the sentences of the pattern and
rejects every other one at the gate of the first constraint that it breaks (`accepts_exactly`).
-/

namespace SentenceCards

def Card.ReadsArticle (card : Card) : Prop := card.surface = "te" ∨ card.surface = "ngā"

def Card.MarksTense (card : Card) : Prop :=
  card.surface = "Kei te" ∨ card.surface = "I" ∨ card.surface = "Ka"

def Card.IsOneOf (card : Card) (first second : Category) : Prop :=
  card.category = first ∨ card.category = second

instance (card : Card) : Decidable card.ReadsArticle :=
  inferInstanceAs (Decidable (card.surface = "te" ∨ card.surface = "ngā"))

/-- The sentences of a pattern, one constructor for each shape. -/
inductive Grammatical : Pattern → List Card → Prop where
  | identifying {ko article noun : Card} (leads : ko.surface = "Ko")
      (definite : article.ReadsArticle) (thing : noun.category = .noun) :
      Grammatical .ko [ko, article, noun]
  | pointing {ko article noun pointer : Card} (leads : ko.surface = "Ko")
      (definite : article.ReadsArticle) (thing : noun.category = .noun)
      (points : pointer.category = .demonstrative) :
      Grammatical .ko [ko, article, noun, pointer]
  | classifying {he noun : Card} (leads : he.surface = "He") (bare : ¬ noun.ReadsArticle)
      (thing : noun.category = .noun) : Grammatical .he [he, noun]
  | ascribing {he noun subject : Card} (leads : he.surface = "He") (bare : ¬ noun.ReadsArticle)
      (thing : noun.category = .noun) (who : subject.IsOneOf .pronoun .demonstrative) :
      Grammatical .he [he, noun, subject]
  | equating {ko pronoun article noun : Card} (leads : ko.surface = "Ko")
      (who : pronoun.category = .pronoun) (definite : article.ReadsArticle)
      (thing : noun.category = .noun) : Grammatical .equative [ko, pronoun, article, noun]
  | predicating {marker predicate pronoun : Card} (leads : marker.MarksTense)
      (asserts : predicate.IsOneOf .adjective .verb) (who : pronoun.category = .pronoun) :
      Grammatical .keiTe [marker, predicate, pronoun]
  | intensifying {marker intensifier predicate pronoun : Card} (leads : marker.MarksTense)
      (degree : intensifier.category = .intensifier) (asserts : predicate.IsOneOf .adjective .verb)
      (who : pronoun.category = .pronoun) :
      Grammatical .keiTe [marker, intensifier, predicate, pronoun]
  | locating {marker verb pronoun locative place : Card} (leads : marker.MarksTense)
      (acts : verb.category = .verb) (who : pronoun.category = .pronoun)
      (points : locative.category = .locative) (goal : place.IsOneOf .noun .article) :
      Grammatical .keiTe [marker, verb, pronoun, locative, place]

/-- What a sentence has to satisfy, with the gate that rejects it otherwise. -/
structure Constraint where
  gate : Gate
  holds : Prop

/-- The gate of the first constraint that is broken. -/
inductive FirstBroken (gate : Gate) : List Constraint → Prop where
  | here {holds : Prop} {rest : List Constraint} (broken : ¬ holds) :
      FirstBroken gate (⟨gate, holds⟩ :: rest)
  | later {other : Gate} {holds : Prop} {rest : List Constraint} (kept : holds)
      (first : FirstBroken gate rest) : FirstBroken gate (⟨other, holds⟩ :: rest)

/-- There is a card at the position, and it is of the kind. -/
def HasAt (cards : List Card) (position : Nat) (kind : Card → Prop) : Prop :=
  ∃ card, cards[position]? = some card ∧ kind card

/-- If there is a card at the position, it is of the kind. -/
def MayHaveAt (cards : List Card) (position : Nat) (kind : Card → Prop) : Prop :=
  ∀ card, cards[position]? = some card → kind card

namespace Pattern

/-- The constraints after the tense marker; they go by the number of cards. -/
def predicateConstraints (cards : List Card) : List Constraint :=
  match cards.length with
  | 3 => [
      ⟨.predicate, HasAt cards 1 (·.IsOneOf .adjective .verb)⟩,
      ⟨.pronoun, HasAt cards 2 (·.category = .pronoun)⟩]
  | 4 => [
      ⟨.intensifier, HasAt cards 1 (·.category = .intensifier)⟩,
      ⟨.predicate, HasAt cards 2 (·.IsOneOf .adjective .verb)⟩,
      ⟨.pronoun, HasAt cards 3 (·.category = .pronoun)⟩]
  | _ => [
      ⟨.verb, HasAt cards 1 (·.category = .verb)⟩,
      ⟨.pronoun, HasAt cards 2 (·.category = .pronoun)⟩,
      ⟨.locative, HasAt cards 3 (·.category = .locative)⟩,
      ⟨.complement, HasAt cards 4 (·.IsOneOf .noun .article)⟩]

/-- The constraints of a pattern, in the order in which they are looked at. -/
def constraints (pattern : Pattern) (cards : List Card) : List Constraint :=
  match pattern with
  | ko => [
      ⟨.length, cards.length = 3 ∨ cards.length = 4⟩,
      ⟨.leader, HasAt cards 0 (·.surface = "Ko")⟩,
      ⟨.article, HasAt cards 1 Card.ReadsArticle⟩,
      ⟨.noun, HasAt cards 2 (·.category = .noun)⟩,
      ⟨.demonstrative, MayHaveAt cards 3 (·.category = .demonstrative)⟩]
  | he => [
      ⟨.length, cards.length = 2 ∨ cards.length = 3⟩,
      ⟨.leader, HasAt cards 0 (·.surface = "He")⟩,
      ⟨.noArticle, HasAt cards 1 fun card => card.category ≠ .article ∧ ¬ card.ReadsArticle⟩,
      ⟨.noun, HasAt cards 1 (·.category = .noun)⟩,
      ⟨.subject, MayHaveAt cards 2 (·.IsOneOf .pronoun .demonstrative)⟩]
  | equative => [
      ⟨.length, cards.length = 4⟩,
      ⟨.leader, HasAt cards 0 (·.surface = "Ko")⟩,
      ⟨.pronoun, HasAt cards 1 (·.category = .pronoun)⟩,
      ⟨.article, HasAt cards 2 Card.ReadsArticle⟩,
      ⟨.noun, HasAt cards 3 (·.category = .noun)⟩]
  | keiTe =>
      ⟨.length, 3 ≤ cards.length ∧ cards.length ≤ 5⟩ ::
        ⟨.leader, HasAt cards 0 Card.MarksTense⟩ :: predicateConstraints cards

end Pattern

section Cards

variable (card : Card)

theorem isA_iff (category : Category) : card.isA category = true ↔ card.category = category :=
  beq_iff_eq

theorem reads_articleForms_iff : card.reads articleForms = true ↔ card.ReadsArticle := by
  simp [Card.reads, articleForms, Card.ReadsArticle]

theorem isPredicate_iff :
    Predication.isPredicate card = true ↔ card.IsOneOf .adjective .verb := by
  simp [Predication.isPredicate, isA_iff, Card.IsOneOf]

theorem isComplement_iff : Predication.isComplement card = true ↔ card.IsOneOf .noun .article := by
  simp [Predication.isComplement, isA_iff, Card.IsOneOf]

theorem isSubject_iff :
    Classification.isSubject card = true ↔ card.IsOneOf .pronoun .demonstrative := by
  simp [Classification.isSubject, isA_iff, Card.IsOneOf]

theorem not_isArticle_iff :
    (!Classification.isArticle card) = true ↔ card.category ≠ .article ∧ ¬ card.ReadsArticle := by
  rw [Classification.isArticle, Bool.not_or, Bool.and_eq_true, Bool.not_eq_true',
    Bool.not_eq_true', ← Bool.not_eq_true, ← Bool.not_eq_true, isA_iff, reads_articleForms_iff]

theorem isSome_ofMarker?_iff :
    (Tense.ofMarker? card.surface).isSome = true ↔ card.MarksTense := by
  simp [Tense.ofMarker?, Tense.all, Tense.marker, Card.MarksTense, @eq_comm _ card.surface]

end Cards

section Positions

variable {cards : List Card} {card : Card} {kind : Card → Prop}

@[simp] theorem hasAt_zero : HasAt (card :: cards) 0 kind ↔ kind card := by
  simp [HasAt]

@[simp] theorem hasAt_succ {position : Nat} :
    HasAt (card :: cards) (position + 1) kind ↔ HasAt cards position kind := by
  simp [HasAt]

@[simp] theorem mayHaveAt_nil {position : Nat} : MayHaveAt [] position kind := by
  simp [MayHaveAt]

@[simp] theorem mayHaveAt_zero : MayHaveAt (card :: cards) 0 kind ↔ kind card := by
  simp [MayHaveAt]

@[simp] theorem mayHaveAt_succ {position : Nat} :
    MayHaveAt (card :: cards) (position + 1) kind ↔ MayHaveAt cards position kind := by
  simp [MayHaveAt]

end Positions

/-- A verdict that accepts if all constraints hold, and that rejects at the first one that does
not. -/
inductive GoesBy (verdict : Verdict) : List Constraint → Prop where
  | accepts (valid : verdict.valid = true) (ungated : verdict.gate? = none) : GoesBy verdict []
  | rejects {gate : Gate} {holds : Prop} {rest : List Constraint} (broken : ¬ holds)
      (invalid : verdict.valid = false) (gated : verdict.gate? = some gate) :
      GoesBy verdict (⟨gate, holds⟩ :: rest)
  | goesOn {gate : Gate} {holds : Prop} {rest : List Constraint} (kept : holds)
      (later : GoesBy verdict rest) : GoesBy verdict (⟨gate, holds⟩ :: rest)

namespace GoesBy

variable {verdict : Verdict} {constraints : List Constraint}

theorem valid_iff (goesBy : GoesBy verdict constraints) :
    verdict.valid = true ↔ ∀ constraint ∈ constraints, constraint.holds := by
  induction goesBy with
  | accepts valid => simpa using valid
  | rejects broken invalid =>
      rw [invalid]
      constructor
      · intro absurd
        cases absurd
      · intro all
        exact (broken (all _ List.mem_cons_self)).elim
  | goesOn kept later ih =>
      rw [ih, List.forall_mem_cons]
      exact ⟨fun all => ⟨kept, all⟩, fun all => all.2⟩

theorem gate?_eq_some_iff (goesBy : GoesBy verdict constraints) (gate : Gate) :
    verdict.gate? = some gate ↔ FirstBroken gate constraints := by
  induction goesBy with
  | accepts valid ungated =>
      rw [ungated]
      constructor <;> intro absurd <;> cases absurd
  | rejects broken invalid gated =>
      rw [gated]
      constructor
      · intro same
        cases same
        exact .here broken
      · intro first
        cases first with
        | here => rfl
        | later kept => exact (broken kept).elim
  | goesOn kept later ih =>
      rw [ih]
      constructor
      · exact .later kept
      · intro first
        cases first with
        | here broken => exact (broken kept).elim
        | later _ first => exact first

theorem gate?_eq_none_iff (goesBy : GoesBy verdict constraints) :
    verdict.gate? = none ↔ ∀ constraint ∈ constraints, constraint.holds := by
  rw [← goesBy.valid_iff]
  unfold Verdict.gate? Verdict.valid
  split <;> simp

end GoesBy

/-- The check stands for the constraint. -/
structure Check.Tests (check : Check) (constraint : Constraint) : Prop where
  gate : check.gate = constraint.gate
  passes : check.passes = true ↔ constraint.holds

theorem Check.goesBy_judge {checks : List Check} {constraints : List Constraint}
    (tests : List.Forall₂ Check.Tests checks constraints) (reading : Reading) (cards : List Card)
    (target : Option Target) : GoesBy (Check.judge checks reading cards target) constraints := by
  induction tests with
  | nil =>
      have read : Check.judge [] reading cards target = reading.verdict cards target := rfl
      rw [read]
      exact .accepts (reading.valid_verdict cards target) (reading.gate?_verdict cards target)
  | @cons check constraint checks constraints here later ih =>
      obtain ⟨gate, holds⟩ := constraint
      obtain rfl : check.gate = gate := here.gate
      by_cases passes : check.passes = true
      · have skipped : Check.judge (check :: checks) reading cards target =
            Check.judge checks reading cards target := by
          simp [Check.judge, passes]
        rw [skipped]
        exact .goesOn (here.passes.mp passes) ih
      · have stopped : Check.judge (check :: checks) reading cards target = check.rejection := by
          simp [Check.judge, passes]
        rw [stopped]
        exact .rejects (fun holds => passes (here.passes.mpr holds)) rfl rfl

namespace Identification

theorem checks_test (ko article noun : Card) (demonstrative : Option Card) :
    List.Forall₂ Check.Tests (checks ko article noun demonstrative)
      (Pattern.constraints .ko (ko :: article :: noun :: demonstrative.toList)).tail := by
  refine .cons ⟨rfl, ?_⟩ (.cons ⟨rfl, ?_⟩ (.cons ⟨rfl, ?_⟩ (.cons ⟨rfl, ?_⟩ .nil)))
  · simp
  · simp [reads_articleForms_iff]
  · simp [isA_iff]
  · cases demonstrative <;> simp [isA_iff]

theorem verdict_goesBy (style : PluralStyle) (cards : List Card) (target : Option Target) :
    GoesBy (verdict style cards target) (Pattern.constraints .ko cards) := by
  match cards with
  | [ko, article, noun] =>
      have tests := checks_test ko article noun none
      exact .goesOn (by simp) (Check.goesBy_judge tests _ _ _)
  | [ko, article, noun, pointer] =>
      have tests := checks_test ko article noun (some pointer)
      exact .goesOn (by simp) (Check.goesBy_judge tests _ _ _)
  | [] | [_] | [_, _] | _ :: _ :: _ :: _ :: _ :: _ => exact .rejects (by simp) rfl rfl

end Identification

namespace Classification

theorem checks_test (he noun : Card) (subject : Option Card) :
    List.Forall₂ Check.Tests (checks he noun subject)
      (Pattern.constraints .he (he :: noun :: subject.toList)).tail := by
  refine .cons ⟨rfl, ?_⟩ (.cons ⟨rfl, ?_⟩ (.cons ⟨rfl, ?_⟩ (.cons ⟨rfl, ?_⟩ .nil)))
  · simp
  · rw [hasAt_succ, hasAt_zero]
    exact not_isArticle_iff noun
  · simp [isA_iff]
  · cases subject <;> simp [isSubject_iff]

theorem verdict_goesBy (cards : List Card) (target : Option Target) :
    GoesBy (verdict cards target) (Pattern.constraints .he cards) := by
  match cards with
  | [he, noun] =>
      have tests := checks_test he noun none
      exact .goesOn (by simp) (Check.goesBy_judge tests _ _ _)
  | [he, noun, subject] =>
      have tests := checks_test he noun (some subject)
      exact .goesOn (by simp) (Check.goesBy_judge tests _ _ _)
  | [] | [_] | _ :: _ :: _ :: _ :: _ => exact .rejects (by simp) rfl rfl

end Classification

namespace Equation

theorem checks_test (ko pronoun article noun : Card) :
    List.Forall₂ Check.Tests (checks ko pronoun article noun)
      (Pattern.constraints .equative [ko, pronoun, article, noun]).tail := by
  refine .cons ⟨rfl, ?_⟩ (.cons ⟨rfl, ?_⟩ (.cons ⟨rfl, ?_⟩ (.cons ⟨rfl, ?_⟩ .nil)))
  · simp
  · simp [isA_iff]
  · simp [reads_articleForms_iff]
  · simp [isA_iff]

theorem verdict_goesBy (cards : List Card) (target : Option Target) :
    GoesBy (verdict cards target) (Pattern.constraints .equative cards) := by
  match cards with
  | [ko, pronoun, article, noun] =>
      have tests := checks_test ko pronoun article noun
      exact .goesOn (by simp) (Check.goesBy_judge tests _ _ _)
  | [] | [_] | [_, _] | [_, _, _] | _ :: _ :: _ :: _ :: _ :: _ => exact .rejects (by simp) rfl rfl

end Equation

namespace Predication

theorem shortChecks_test (marker predicate pronoun : Card) :
    List.Forall₂ Check.Tests (shortChecks predicate pronoun)
      (Pattern.predicateConstraints [marker, predicate, pronoun]) := by
  refine .cons ⟨rfl, ?_⟩ (.cons ⟨rfl, ?_⟩ .nil)
  · simp [isPredicate_iff]
  · simp [isA_iff]

theorem intensifiedChecks_test (marker intensifier predicate pronoun : Card) :
    List.Forall₂ Check.Tests (intensifiedChecks intensifier predicate pronoun)
      (Pattern.predicateConstraints [marker, intensifier, predicate, pronoun]) := by
  refine .cons ⟨rfl, ?_⟩ (.cons ⟨rfl, ?_⟩ (.cons ⟨rfl, ?_⟩ .nil))
  · simp [isA_iff]
  · simp [isPredicate_iff]
  · simp [isA_iff]

theorem locatedChecks_test (marker verb pronoun locative place : Card) :
    List.Forall₂ Check.Tests (locatedChecks verb pronoun locative place)
      (Pattern.predicateConstraints [marker, verb, pronoun, locative, place]) := by
  refine .cons ⟨rfl, ?_⟩ (.cons ⟨rfl, ?_⟩ (.cons ⟨rfl, ?_⟩ (.cons ⟨rfl, ?_⟩ .nil)))
  · simp [isA_iff]
  · simp [isA_iff]
  · simp [isA_iff]
  · simp [isComplement_iff]

theorem withTense_goesBy {marker : Card} {rest : List Card} {judge : Tense → Verdict}
    {constraints : List Constraint} (goesBy : ∀ tense, GoesBy (judge tense) constraints) :
    GoesBy (withTense marker judge)
      (⟨.leader, HasAt (marker :: rest) 0 Card.MarksTense⟩ :: constraints) := by
  have marked := isSome_ofMarker?_iff marker
  unfold withTense
  cases found : Tense.ofMarker? marker.surface with
  | some tense =>
      rw [found] at marked
      have leads : marker.MarksTense := marked.mp rfl
      exact .goesOn (hasAt_zero.mpr leads) (goesBy tense)
  | none =>
      rw [found] at marked
      have other : ¬ marker.MarksTense := fun leads => Bool.false_ne_true (marked.mpr leads)
      exact .rejects (fun leads => other (hasAt_zero.mp leads)) rfl rfl

theorem verdict_goesBy (cards : List Card) (target : Option Target) :
    GoesBy (verdict cards target) (Pattern.constraints .keiTe cards) := by
  match cards with
  | [marker, predicate, pronoun] =>
      have tests := shortChecks_test marker predicate pronoun
      exact .goesOn (by simp) (withTense_goesBy fun _ => Check.goesBy_judge tests _ _ _)
  | [marker, intensifier, predicate, pronoun] =>
      have tests := intensifiedChecks_test marker intensifier predicate pronoun
      exact .goesOn (by simp) (withTense_goesBy fun _ => Check.goesBy_judge tests _ _ _)
  | [marker, verb, pronoun, locative, place] =>
      have tests := locatedChecks_test marker verb pronoun locative place
      exact .goesOn (by simp) (withTense_goesBy fun _ => Check.goesBy_judge tests _ _ _)
  | [] | [_] | [_, _] | _ :: _ :: _ :: _ :: _ :: _ :: _ => exact .rejects (by simp) rfl rfl

end Predication

theorem Pattern.judge_goesBy (pattern : Pattern) (style : PluralStyle) (cards : List Card)
    (target : Option Target) :
    GoesBy (pattern.judge style cards target) (pattern.constraints cards) := by
  cases pattern with
  | ko => exact Identification.verdict_goesBy style cards target
  | he => exact Classification.verdict_goesBy cards target
  | equative => exact Equation.verdict_goesBy cards target
  | keiTe => exact Predication.verdict_goesBy cards target

theorem Grammatical.constraints_hold {pattern : Pattern} {cards : List Card}
    (grammatical : Grammatical pattern cards) :
    ∀ constraint ∈ pattern.constraints cards, constraint.holds := by
  cases grammatical with
  | identifying leads definite thing => simp [Pattern.constraints, leads, definite, thing]
  | pointing leads definite thing points =>
      simp [Pattern.constraints, leads, definite, thing, points]
  | classifying leads bare thing => simp [Pattern.constraints, leads, bare, thing]
  | ascribing leads bare thing who => simp [Pattern.constraints, leads, bare, thing, who]
  | equating leads who definite thing => simp [Pattern.constraints, leads, who, definite, thing]
  | predicating leads asserts who =>
      simp [Pattern.constraints, Pattern.predicateConstraints, leads, asserts, who]
  | intensifying leads degree asserts who =>
      simp [Pattern.constraints, Pattern.predicateConstraints, leads, degree, asserts, who]
  | locating leads acts who points goal =>
      simp [Pattern.constraints, Pattern.predicateConstraints, leads, acts, who, points, goal]

theorem grammatical_of_constraints {pattern : Pattern} {cards : List Card}
    (holds : ∀ constraint ∈ pattern.constraints cards, constraint.holds) :
    Grammatical pattern cards := by
  cases pattern with
  | ko =>
      match cards with
      | [ko, article, noun] =>
          obtain ⟨leads, definite, thing⟩ : ko.surface = "Ko" ∧ article.ReadsArticle ∧
              noun.category = .noun := by simpa [Pattern.constraints] using holds
          exact .identifying leads definite thing
      | [ko, article, noun, pointer] =>
          obtain ⟨leads, definite, thing, points⟩ : ko.surface = "Ko" ∧ article.ReadsArticle ∧
              noun.category = .noun ∧ pointer.category = .demonstrative := by
            simpa [Pattern.constraints] using holds
          exact .pointing leads definite thing points
      | [] | [_] | [_, _] | _ :: _ :: _ :: _ :: _ :: _ => simp [Pattern.constraints] at holds
  | he =>
      match cards with
      | [he, noun] =>
          obtain ⟨leads, ⟨_, bare⟩, thing⟩ : he.surface = "He" ∧
              (noun.category ≠ .article ∧ ¬ noun.ReadsArticle) ∧ noun.category = .noun := by
            simpa [Pattern.constraints] using holds
          exact .classifying leads bare thing
      | [he, noun, subject] =>
          obtain ⟨leads, ⟨_, bare⟩, thing, who⟩ : he.surface = "He" ∧
              (noun.category ≠ .article ∧ ¬ noun.ReadsArticle) ∧ noun.category = .noun ∧
              subject.IsOneOf .pronoun .demonstrative := by
            simpa [Pattern.constraints] using holds
          exact .ascribing leads bare thing who
      | [] | [_] | _ :: _ :: _ :: _ :: _ => simp [Pattern.constraints] at holds
  | equative =>
      match cards with
      | [ko, pronoun, article, noun] =>
          obtain ⟨leads, who, definite, thing⟩ : ko.surface = "Ko" ∧
              pronoun.category = .pronoun ∧ article.ReadsArticle ∧ noun.category = .noun := by
            simpa [Pattern.constraints] using holds
          exact .equating leads who definite thing
      | [] | [_] | [_, _] | [_, _, _] | _ :: _ :: _ :: _ :: _ :: _ =>
          simp [Pattern.constraints] at holds
  | keiTe =>
      match cards with
      | [marker, predicate, pronoun] =>
          obtain ⟨leads, asserts, who⟩ : marker.MarksTense ∧ predicate.IsOneOf .adjective .verb ∧
              pronoun.category = .pronoun := by
            simpa [Pattern.constraints, Pattern.predicateConstraints] using holds
          exact .predicating leads asserts who
      | [marker, intensifier, predicate, pronoun] =>
          obtain ⟨leads, degree, asserts, who⟩ : marker.MarksTense ∧
              intensifier.category = .intensifier ∧ predicate.IsOneOf .adjective .verb ∧
              pronoun.category = .pronoun := by
            simpa [Pattern.constraints, Pattern.predicateConstraints] using holds
          exact .intensifying leads degree asserts who
      | [marker, verb, pronoun, locative, place] =>
          obtain ⟨leads, acts, who, points, goal⟩ : marker.MarksTense ∧ verb.category = .verb ∧
              pronoun.category = .pronoun ∧ locative.category = .locative ∧
              place.IsOneOf .noun .article := by
            simpa [Pattern.constraints, Pattern.predicateConstraints] using holds
          exact .locating leads acts who points goal
      | [] | [_] | [_, _] => simp [Pattern.constraints] at holds
      | _ :: _ :: _ :: _ :: _ :: _ :: _ =>
          obtain ⟨_, bound⟩ := holds _ List.mem_cons_self
          simp only [List.length_cons] at bound
          omega

theorem grammatical_iff_constraints {pattern : Pattern} {cards : List Card} :
    Grammatical pattern cards ↔ ∀ constraint ∈ pattern.constraints cards, constraint.holds :=
  ⟨Grammatical.constraints_hold, grammatical_of_constraints⟩

/-- What a pattern accepts does not depend on the target or on the style of plurals. -/
theorem Pattern.judge_valid_iff (pattern : Pattern) (style : PluralStyle) (cards : List Card)
    (target : Option Target) :
    (pattern.judge style cards target).valid = true ↔ Grammatical pattern cards :=
  (pattern.judge_goesBy style cards target).valid_iff.trans grammatical_iff_constraints.symm

/-- A pattern accepts exactly its sentences, and any other list of cards is rejected at the gate of
the first constraint that it breaks. -/
theorem Pattern.accepts_exactly (pattern : Pattern) (style : PluralStyle) (cards : List Card)
    (target : Option Target) :
    ((pattern.judge style cards target).valid = true ↔ Grammatical pattern cards) ∧
      ((pattern.judge style cards target).gate? = none ↔ Grammatical pattern cards) ∧
      ∀ gate, (pattern.judge style cards target).gate? = some gate ↔
        FirstBroken gate (pattern.constraints cards) := by
  have goesBy := pattern.judge_goesBy style cards target
  refine ⟨pattern.judge_valid_iff style cards target, ?_, ?_⟩
  · rw [goesBy.gate?_eq_none_iff, grammatical_iff_constraints]
  · intro gate
    exact goesBy.gate?_eq_some_iff gate

end SentenceCards
