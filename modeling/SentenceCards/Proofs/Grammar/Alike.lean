import Mathlib.Data.List.Forall2
import SentenceCards.Proofs.Grammar.Verdict

/-!
# Cards that read alike

A pattern looks at the surfaces and the categories of the cards only, and at what else they carry
not before it translates the sentence.  So cards that are written alike and of the same categories
are rejected by the same check, or they are both read and praised alike (`Pattern.judge_alike`).
Every single judgement is one of these two as well (`Pattern.judge_decides`).
-/

namespace SentenceCards

/-- The two cards have the surface and the category in common. -/
structure Card.Alike (card other : Card) : Prop where
  surface : card.surface = other.surface
  category : card.category = other.category

namespace Card.Alike

variable {card other : Card}

theorem refl (card : Card) : card.Alike card := ⟨rfl, rfl⟩

theorem isA_eq (alike : card.Alike other) (category : Category) :
    card.isA category = other.isA category := by
  rw [isA, isA, alike.category]

theorem reads_eq (alike : card.Alike other) (forms : List String) :
    card.reads forms = other.reads forms := by
  rw [reads, reads, alike.surface]

theorem sentence_eq {cards others : List Card} (alike : List.Forall₂ Card.Alike cards others) :
    sentence cards = sentence others := by
  have surfaces : cards.map Card.surface = others.map Card.surface := by
    induction alike with
    | nil => rfl
    | cons here later ih => rw [List.map_cons, List.map_cons, here.surface, ih]
  rw [sentence, sentence, surfaces]

end Card.Alike

/-- Judgements of two lists of cards that reject both by the same check, or read both and praise
them alike. -/
inductive DecideAlike (cards others : List Card) :
    (Option Target → Verdict) → (Option Target → Verdict) → Prop where
  | reject (check : Check) :
      DecideAlike cards others (fun _ => check.rejection) fun _ => check.rejection
  | read {reading other : Reading} (praised : reading.praise = other.praise)
      (covers : reading.Covers cards) (coversToo : other.Covers others) :
      DecideAlike cards others (reading.verdict cards) (other.verdict others)

theorem DecideAlike.decides {cards others : List Card} {judge judgeToo : Option Target → Verdict}
    (alike : DecideAlike cards others judge judgeToo) : Decides cards judge := by
  cases alike with
  | reject check => exact .rejects check
  | read praised covers coversToo => exact .reads covers

/-- The two verdicts are told in the same words, but for what they translate. -/
structure Verdict.ToldAlike (verdict other : Verdict) : Prop where
  valid : verdict.valid = other.valid
  correct : verdict.correct = other.correct
  gate : verdict.gate? = other.gate?
  tone : verdict.feedback.tone = other.feedback.tone
  message : verdict.feedback.message = other.feedback.message
  hint : verdict.feedback.hint = other.feedback.hint
  rejected : verdict.valid = false → verdict = other

theorem Reading.verdict_toldAlike {reading other : Reading} {cards others : List Card}
    (praised : reading.praise = other.praise) (same : sentence cards = sentence others)
    (target : Option Target) :
    (reading.verdict cards target).ToldAlike (other.verdict others target) := by
  have correct : (reading.verdict cards target).correct =
      (other.verdict others target).correct := by
    rw [correct_verdict, correct_verdict, same]
  refine ⟨by simp, correct, by simp, ?_, ?_, ?_, by simp⟩
  · rw [tone_verdict, tone_verdict, correct]
  · cases target with
    | none => simp [verdict, praised]
    | some asked =>
        rw [verdict, verdict, same]
        split <;> rfl
  · cases target with
    | none => simp [verdict, praised]
    | some asked =>
        rw [verdict, verdict, same, praised]
        split <;> rfl

theorem DecideAlike.toldAlike {cards others : List Card} {judge judgeToo : Option Target → Verdict}
    (alike : DecideAlike cards others judge judgeToo) (same : sentence cards = sentence others)
    (target : Option Target) : (judge target).ToldAlike (judgeToo target) := by
  cases alike with
  | reject check => exact ⟨rfl, rfl, rfl, rfl, rfl, rfl, fun _ => rfl⟩
  | read praised covers coversToo => exact Reading.verdict_toldAlike praised same target

theorem Check.judge_alike {cards others : List Card} {checks checksToo : List Check}
    {reading other : Reading} (same : checks = checksToo)
    (praised : reading.praise = other.praise) (covers : reading.Covers cards)
    (coversToo : other.Covers others) :
    DecideAlike cards others (judge checks reading cards) (judge checksToo other others) := by
  subst same
  cases stopped : checks.find? (!·.passes) with
  | none =>
      rw [judge_of_passed reading cards stopped, judge_of_passed other others stopped]
      exact .read praised covers coversToo
  | some check =>
      rw [judge_of_stopped reading cards stopped, judge_of_stopped other others stopped]
      exact .reject check

namespace Identification

theorem reading_covers (style : PluralStyle) (ko article noun : Card)
    (demonstrative : Option Card) :
    (reading style ko article noun demonstrative).Covers
      (ko :: article :: noun :: demonstrative.toList) := by
  cases demonstrative with
  | none => exact ⟨by simp [reading, translation], rfl⟩
  | some pointer => exact ⟨by simp [reading, translation], rfl⟩

theorem checks_eq {ko koToo article articleToo noun nounToo : Card}
    {demonstrative demonstrativeToo : Option Card} (leads : ko.Alike koToo)
    (definite : article.Alike articleToo) (thing : noun.Alike nounToo)
    (points : Option.Rel Card.Alike demonstrative demonstrativeToo) :
    checks ko article noun demonstrative = checks koToo articleToo nounToo demonstrativeToo := by
  cases points with
  | none => simp only [checks, leads.surface, definite.reads_eq, thing.isA_eq, Option.all_none]
  | some points =>
      simp only [checks, leads.surface, definite.reads_eq, thing.isA_eq, Option.all_some,
        points.isA_eq]

theorem verdict_alike (style otherStyle : PluralStyle) {cards others : List Card}
    (alike : List.Forall₂ Card.Alike cards others) :
    DecideAlike cards others (verdict style cards) (verdict otherStyle others) := by
  -- The lists are of one length, so both are sentences of the same form or of no form at all.
  rcases alike with _ | ⟨leads, _ | ⟨definite, _ | ⟨thing, _ | ⟨points, _ | _⟩⟩⟩⟩
  case cons.cons.cons.nil =>
      exact Check.judge_alike (checks_eq leads definite thing .none) rfl
        (reading_covers _ _ _ _ none) (reading_covers _ _ _ _ none)
  case cons.cons.cons.cons.nil =>
      exact Check.judge_alike (checks_eq leads definite thing (.some points)) rfl
        (reading_covers _ _ _ _ (some _)) (reading_covers _ _ _ _ (some _))
  all_goals exact .reject lengthCheck

end Identification

namespace Classification

theorem reading_covers (he noun : Card) (subject : Option Card) :
    (reading he noun subject).Covers (he :: noun :: subject.toList) := by
  cases subject with
  | none => exact ⟨by simp [reading], rfl⟩
  | some who => exact ⟨by simp [reading], rfl⟩

theorem isArticle_eq {card other : Card} (alike : card.Alike other) :
    isArticle card = isArticle other := by
  rw [isArticle, isArticle, alike.isA_eq, alike.reads_eq]

theorem isSubject_eq {card other : Card} (alike : card.Alike other) :
    isSubject card = isSubject other := by
  rw [isSubject, isSubject, alike.isA_eq, alike.isA_eq]

theorem checks_eq {he heToo noun nounToo : Card} {subject subjectToo : Option Card}
    (leads : he.Alike heToo) (thing : noun.Alike nounToo)
    (who : Option.Rel Card.Alike subject subjectToo) :
    checks he noun subject = checks heToo nounToo subjectToo := by
  cases who with
  | none => simp only [checks, leads.surface, isArticle_eq thing, thing.isA_eq, Option.all_none]
  | some who =>
      simp only [checks, leads.surface, isArticle_eq thing, thing.isA_eq, Option.all_some,
        isSubject_eq who]

theorem verdict_alike {cards others : List Card} (alike : List.Forall₂ Card.Alike cards others) :
    DecideAlike cards others (verdict cards) (verdict others) := by
  rcases alike with _ | ⟨leads, _ | ⟨thing, _ | ⟨who, _ | _⟩⟩⟩
  case cons.cons.nil =>
      exact Check.judge_alike (checks_eq leads thing .none) rfl
        (reading_covers _ _ none) (reading_covers _ _ none)
  case cons.cons.cons.nil =>
      exact Check.judge_alike (checks_eq leads thing (.some who)) rfl
        (reading_covers _ _ (some _)) (reading_covers _ _ (some _))
  all_goals exact .reject lengthCheck

end Classification

namespace Equation

theorem reading_covers (ko pronoun article noun : Card) :
    (reading ko pronoun article noun).Covers [ko, pronoun, article, noun] :=
  ⟨by simp [reading], rfl⟩

theorem checks_eq {ko koToo pronoun pronounToo article articleToo noun nounToo : Card}
    (leads : ko.Alike koToo) (who : pronoun.Alike pronounToo)
    (definite : article.Alike articleToo) (thing : noun.Alike nounToo) :
    checks ko pronoun article noun = checks koToo pronounToo articleToo nounToo := by
  simp only [checks, leads.surface, who.isA_eq, definite.reads_eq, thing.isA_eq]

theorem verdict_alike {cards others : List Card} (alike : List.Forall₂ Card.Alike cards others) :
    DecideAlike cards others (verdict cards) (verdict others) := by
  rcases alike with _ | ⟨leads, _ | ⟨who, _ | ⟨definite, _ | ⟨thing, _ | _⟩⟩⟩⟩
  case cons.cons.cons.cons.nil =>
      exact Check.judge_alike (checks_eq leads who definite thing) rfl
        (reading_covers _ _ _ _) (reading_covers _ _ _ _)
  all_goals exact .reject lengthCheck

end Equation

namespace Predication

theorem isPredicate_eq {card other : Card} (alike : card.Alike other) :
    isPredicate card = isPredicate other := by
  rw [isPredicate, isPredicate, alike.isA_eq, alike.isA_eq]

theorem isComplement_eq {card other : Card} (alike : card.Alike other) :
    isComplement card = isComplement other := by
  rw [isComplement, isComplement, alike.isA_eq, alike.isA_eq]

theorem withTense_alike {cards others : List Card} {marker markerToo : Card}
    (leads : marker.Alike markerToo) {judge judgeToo : Tense → Option Target → Verdict}
    (alike : ∀ tense, DecideAlike cards others (judge tense) (judgeToo tense)) :
    DecideAlike cards others (fun target => withTense marker (judge · target))
      fun target => withTense markerToo (judgeToo · target) := by
  unfold withTense
  rw [leads.surface]
  cases Tense.ofMarker? markerToo.surface with
  | some tense => exact alike tense
  | none => exact .reject leaderCheck

theorem shortReading_covers (tense : Tense) (marker predicate pronoun : Card) :
    (shortReading tense marker predicate pronoun).Covers [marker, predicate, pronoun] :=
  ⟨by simp [shortReading], rfl⟩

theorem intensifiedReading_covers (tense : Tense) (marker intensifier predicate pronoun : Card) :
    (intensifiedReading tense marker intensifier predicate pronoun).Covers
      [marker, intensifier, predicate, pronoun] :=
  ⟨by simp [intensifiedReading], rfl⟩

theorem locatedReading_covers (tense : Tense) (marker verb pronoun locative place : Card) :
    (locatedReading tense marker verb pronoun locative place).Covers
      [marker, verb, pronoun, locative, place] :=
  ⟨by simp [locatedReading], rfl⟩

theorem verdict_alike {cards others : List Card} (alike : List.Forall₂ Card.Alike cards others) :
    DecideAlike cards others (verdict cards) (verdict others) := by
  rcases alike with _ | ⟨leads, _ | ⟨second, _ | ⟨third, _ | ⟨fourth, _ | ⟨fifth, _ | _⟩⟩⟩⟩⟩
  case cons.cons.cons.nil =>
      refine withTense_alike leads fun tense => Check.judge_alike ?_ rfl
        (shortReading_covers _ _ _ _) (shortReading_covers _ _ _ _)
      simp only [shortChecks, isPredicate_eq second, third.isA_eq]
  case cons.cons.cons.cons.nil =>
      refine withTense_alike leads fun tense => Check.judge_alike ?_ rfl
        (intensifiedReading_covers _ _ _ _ _) (intensifiedReading_covers _ _ _ _ _)
      simp only [intensifiedChecks, second.isA_eq, isPredicate_eq third, fourth.isA_eq]
  case cons.cons.cons.cons.cons.nil =>
      refine withTense_alike leads fun tense => Check.judge_alike ?_ rfl
        (locatedReading_covers _ _ _ _ _ _) (locatedReading_covers _ _ _ _ _ _)
      simp only [locatedChecks, second.isA_eq, third.isA_eq, fourth.isA_eq, isComplement_eq fifth]
  all_goals exact .reject lengthCheck

end Predication

/-- What a pattern makes of cards that are alike differs in their translation at most. -/
theorem Pattern.judge_alike (pattern : Pattern) (style otherStyle : PluralStyle)
    {cards others : List Card} (alike : List.Forall₂ Card.Alike cards others) :
    DecideAlike cards others (pattern.judge style cards) (pattern.judge otherStyle others) := by
  cases pattern with
  | ko => exact Identification.verdict_alike style otherStyle alike
  | he => exact Classification.verdict_alike alike
  | equative => exact Equation.verdict_alike alike
  | keiTe => exact Predication.verdict_alike alike

theorem Pattern.judge_toldAlike (pattern : Pattern) (style otherStyle : PluralStyle)
    {cards others : List Card} (alike : List.Forall₂ Card.Alike cards others)
    (target : Option Target) :
    (pattern.judge style cards target).ToldAlike (pattern.judge otherStyle others target) :=
  (pattern.judge_alike style otherStyle alike).toldAlike (Card.Alike.sentence_eq alike) target

theorem Pattern.judge_decides (pattern : Pattern) (style : PluralStyle) (cards : List Card) :
    Decides cards (pattern.judge style cards) :=
  (pattern.judge_alike style style (List.forall₂_same.mpr fun card _ => .refl card)).decides

end SentenceCards
