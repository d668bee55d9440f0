import SentenceCards.Proofs.Grammar.Sentences
import SentenceCards.Proofs.Session.Transition

/-!
# Telling the patterns apart

No list of cards is a sentence of two patterns.  The pattern of a sentence is found from its first
cards alone, unless an article is taken for a pronoun, and so a sentence that is said is judged by
the one pattern that can accept it (`sentence_detected`).
-/

namespace SentenceCards

namespace Pattern

/-- How the first card of a sentence of the pattern reads. -/
def LeadsWith : Pattern → Card → Prop
  | ko, card | equative, card => card.surface = "Ko"
  | he, card => card.surface = "He"
  | keiTe, card => card.MarksTense

/-- Only identifying and equating sentences begin alike. -/
theorem eq_or_ko_equative_of_leadsWith {first second : Pattern} {card : Card}
    (leads : first.LeadsWith card) (leadsToo : second.LeadsWith card) :
    first = second ∨ (first = .ko ∧ second = .equative) ∨ (first = .equative ∧ second = .ko) := by
  cases first <;> cases second <;> simp_all [LeadsWith, Card.MarksTense]

end Pattern

namespace Grammatical

variable {pattern : Pattern} {cards : List Card}

theorem leads (grammatical : Grammatical pattern cards) :
    ∃ first rest, cards = first :: rest ∧ pattern.LeadsWith first := by
  cases grammatical with
  | identifying leads | pointing leads | classifying leads | ascribing leads | equating leads
  | predicating leads | intensifying leads | locating leads => exact ⟨_, _, rfl, leads⟩

/-- An identifying sentence of four cards ends with a demonstrative, an equating one with a noun. -/
theorem not_equative_of_ko (identifies : Grammatical .ko cards) : ¬ Grammatical .equative cards := by
  intro equates
  cases identifies with
  | identifying => cases equates
  | pointing _ _ _ points =>
      cases equates with
      | equating _ _ _ thing =>
          rw [thing] at points
          cases points

theorem unique {first second : Pattern} (grammatical : Grammatical first cards)
    (grammaticalToo : Grammatical second cards) : first = second := by
  obtain ⟨card, rest, rfl, leads⟩ := grammatical.leads
  obtain ⟨_, _, same, leadsToo⟩ := grammaticalToo.leads
  cases same
  rcases Pattern.eq_or_ko_equative_of_leadsWith leads leadsToo with same | ⟨rfl, rfl⟩ | ⟨rfl, rfl⟩
  · exact same
  · exact absurd grammaticalToo grammatical.not_equative_of_ko
  · exact absurd grammatical grammaticalToo.not_equative_of_ko

end Grammatical

section Opens

variable {first second : Card} {rest : List Card}

theorem opens_ko_iff : Pattern.ko.opens (first :: rest) = true ↔ first.surface = "Ko" :=
  beq_iff_eq

theorem opens_he_iff : Pattern.he.opens (first :: rest) = true ↔ first.surface = "He" :=
  beq_iff_eq

theorem opens_equative_iff :
    Pattern.equative.opens (first :: second :: rest) = true ↔
      first.surface = "Ko" ∧ second.category = .pronoun := by
  simp [Pattern.opens, Equation.opens, isA_iff]

theorem opens_keiTe_iff : Pattern.keiTe.opens (first :: rest) = true ↔ first.MarksTense :=
  isSome_ofMarker?_iff first

end Opens

theorem opens_of_detect {cards : List Card} {pattern : Pattern}
    (detected : detect cards = some pattern) : pattern.opens cards = true := by
  unfold detect at detected
  exact List.find?_some (p := fun pattern : Pattern => pattern.opens cards) detected

/-- Without Ko in front there is no equating and no identifying sentence. -/
theorem detect_cons_of_ne {first : Card} {rest : List Card} (other : first.surface ≠ "Ko") :
    detect (first :: rest) = [Pattern.he, .keiTe].find? (·.opens (first :: rest)) := by
  have ko : Pattern.ko.opens (first :: rest) = false :=
    Bool.eq_false_iff.mpr fun opens => other (opens_ko_iff.mp opens)
  have equative : Pattern.equative.opens (first :: rest) = false := by
    cases rest with
    | nil => rfl
    | cons second rest =>
        exact Bool.eq_false_iff.mpr fun opens => other (opens_equative_iff.mp opens).1
  rw [detect, List.find?_cons_of_neg (by simp [equative]), List.find?_cons_of_neg (by simp [ko])]

theorem detect_equative {ko pronoun : Card} {rest : List Card} (leads : ko.surface = "Ko")
    (who : pronoun.category = .pronoun) : detect (ko :: pronoun :: rest) = some .equative :=
  List.find?_cons_of_pos (opens_equative_iff.mpr ⟨leads, who⟩)

theorem detect_ko {ko article : Card} {rest : List Card} (leads : ko.surface = "Ko")
    (other : article.category ≠ .pronoun) : detect (ko :: article :: rest) = some .ko := by
  have equative : Pattern.equative.opens (ko :: article :: rest) = false :=
    Bool.eq_false_iff.mpr fun opens => other (opens_equative_iff.mp opens).2
  rw [detect, List.find?_cons_of_neg (by simp [equative])]
  exact List.find?_cons_of_pos (opens_ko_iff.mpr leads)

theorem detect_he {he : Card} {rest : List Card} (leads : he.surface = "He") :
    detect (he :: rest) = some .he := by
  rw [detect_cons_of_ne (by simp [leads])]
  exact List.find?_cons_of_pos (opens_he_iff.mpr leads)

theorem detect_keiTe {marker : Card} {rest : List Card} (leads : marker.MarksTense) :
    detect (marker :: rest) = some .keiTe := by
  have notKo : marker.surface ≠ "Ko" := by
    rcases leads with leads | leads | leads <;> simp [leads]
  have notHe : marker.surface ≠ "He" := by
    rcases leads with leads | leads | leads <;> simp [leads]
  have he : Pattern.he.opens (marker :: rest) = false :=
    Bool.eq_false_iff.mpr fun opens => notHe (opens_he_iff.mp opens)
  rw [detect_cons_of_ne notKo, List.find?_cons_of_neg (by simp [he])]
  exact List.find?_cons_of_pos (opens_keiTe_iff.mpr leads)

theorem Grammatical.detected {pattern : Pattern} {cards : List Card}
    (grammatical : Grammatical pattern cards)
    (spelled : ∀ card ∈ cards, card.ReadsArticle → card.category ≠ .pronoun) :
    detect cards = some pattern := by
  cases grammatical with
  | identifying leads definite | pointing leads definite =>
      exact detect_ko leads (spelled _ (by simp) definite)
  | classifying leads | ascribing leads => exact detect_he leads
  | equating leads who => exact detect_equative leads who
  | predicating leads | intensifying leads | locating leads => exact detect_keiTe leads

theorem Session.answer_say {session : Session} {text : String} {cards : List Card}
    (read : session.catalog.cardsOf text = .ok cards) :
    (session.perform (.say text)).1 =
      match detect cards with
      | none => .error (Cause.unknownPattern (sentence cards)).failure
      | some pattern => .ok (.said pattern (pattern.judge session.style cards none)) := by
  cases found : detect cards with
  | none => rw [(Transition.unrecognized read found).perform_eq]
  | some pattern => rw [(Transition.said read found).perform_eq]

/-- No two patterns accept the same cards, and only a pattern that the first cards look like is
detected.  If no card that reads `te` or `ngā` is a pronoun, the pattern that accepts a sentence is
the one detected, and so a sentence that is said is valid exactly if any pattern accepts it. -/
theorem sentence_detected (cards : List Card) :
    (∀ (first second : Pattern) (style otherStyle : PluralStyle)
        (target otherTarget : Option Target),
      (first.judge style cards target).valid = true →
        (second.judge otherStyle cards otherTarget).valid = true → first = second) ∧
      (∀ pattern, detect cards = some pattern → pattern.opens cards = true) ∧
      ((∀ card ∈ cards, card.ReadsArticle → card.category ≠ .pronoun) →
        (∀ (pattern : Pattern) (style : PluralStyle) (target : Option Target),
          (pattern.judge style cards target).valid = true → detect cards = some pattern) ∧
        (∀ (style : PluralStyle) (target : Option Target),
          (∃ pattern, detect cards = some pattern ∧
              (pattern.judge style cards target).valid = true) ↔
            ∃ pattern : Pattern, (pattern.judge style cards target).valid = true) ∧
        ∀ (session : Session) (text : String), session.catalog.cardsOf text = .ok cards →
          ((∃ pattern verdict, (session.perform (.say text)).1 = .ok (.said pattern verdict) ∧
              verdict.valid = true) ↔
            ∃ pattern : Pattern, (pattern.judge session.style cards none).valid = true)) := by
  refine ⟨?_, fun pattern => opens_of_detect, ?_⟩
  · intro first second style otherStyle target otherTarget accepted acceptedToo
    exact ((first.judge_valid_iff style cards target).mp accepted).unique
      ((second.judge_valid_iff otherStyle cards otherTarget).mp acceptedToo)
  · intro spelled
    have complete : ∀ (pattern : Pattern) (style : PluralStyle) (target : Option Target),
        (pattern.judge style cards target).valid = true → detect cards = some pattern := by
      intro pattern style target accepted
      exact ((pattern.judge_valid_iff style cards target).mp accepted).detected spelled
    refine ⟨complete, ?_, ?_⟩
    · intro style target
      constructor
      · rintro ⟨pattern, _, accepted⟩
        exact ⟨pattern, accepted⟩
      · rintro ⟨pattern, accepted⟩
        exact ⟨pattern, complete pattern style target accepted, accepted⟩
    · intro session text read
      rw [Session.answer_say read]
      constructor
      · rintro ⟨pattern, verdict, said, accepted⟩
        cases found : detect cards with
        | none =>
            rw [found] at said
            cases said
        | some other =>
            rw [found] at said
            cases said
            exact ⟨_, accepted⟩
      · rintro ⟨pattern, accepted⟩
        rw [complete pattern session.style none accepted]
        exact ⟨pattern, _, rfl, accepted⟩

theorem sentence_detected_koTeWhare :
    let session := Session.start .standard .standard .usual
    (∀ card ∈ ["p_ko", "art_te", "n_whare"].map Catalog.standard.cardOrStandIn,
        card.ReadsArticle → card.category ≠ .pronoun) ∧
      ∃ pattern verdict,
        (session.perform (.say "Ko te whare.")).1 = .ok (.said pattern verdict) ∧
          verdict.valid = true := by
  intro session
  let cards := ["p_ko", "art_te", "n_whare"].map Catalog.standard.cardOrStandIn
  have spelled : ∀ card ∈ cards, card.ReadsArticle → card.category ≠ .pronoun := by
    decide +kernel
  have read : session.catalog.cardsOf "Ko te whare." = .ok cards := by decide +kernel
  have accepted : (Pattern.ko.judge session.style cards none).valid = true := by decide +kernel
  obtain ⟨_, _, detects⟩ := sentence_detected cards
  obtain ⟨_, _, valid⟩ := detects spelled
  exact ⟨spelled, (valid session "Ko te whare." read).mpr ⟨.ko, accepted⟩⟩

end SentenceCards
