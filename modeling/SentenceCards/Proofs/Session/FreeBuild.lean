import SentenceCards.Proofs.Grammar.Alike
import SentenceCards.Proofs.Session.Laying
import SentenceCards.Proofs.Session.Saying

/-!
# Building sentences freely

When a learner builds freely, the hand holds every card of the catalog and there are as many slots
as the longest sentences of the pattern need.  So any different cards can be laid out, as long as
there is a slot for each, and what is submitted is judged like the cards alone
(`free_build_judged`).  Saying the same cards gives the same verdict.
-/

open scoped List

namespace SentenceCards

/-- No sentence is longer than the longest of its pattern. -/
theorem Grammatical.length_le {pattern : Pattern} {cards : List Card}
    (grammatical : Grammatical pattern cards) : cards.length ≤ pattern.longest := by
  cases grammatical with
  | identifying | pointing | classifying | ascribing | equating | predicating | intensifying
  | locating => simp [Pattern.longest]

namespace Catalog

variable {catalog : Catalog}

theorem map_id_cards :
    (catalog.words.map Card.ofWord).map Card.id = catalog.words.map Word.id := by
  rw [List.map_map]
  rfl

theorem eq_of_id_eq {card other : Card} (listed : card ∈ catalog.words.map Card.ofWord)
    (listedToo : other ∈ catalog.words.map Card.ofWord) (same : card.id = other.id) :
    card = other := by
  have ids : ((catalog.words.map Card.ofWord).map Card.id).Nodup := by
    rw [map_id_cards]
    exact catalog.ids_nodup
  exact List.inj_on_of_nodup_map ids listed listedToo same

end Catalog

namespace Session

/-- Begins to build freely, lays out the cards and submits them. -/
def Player.buildFreely (player : Player) (session : Session) (pattern : Pattern)
    (cards : List Card) : List Operation :=
  .startFreeBuild pattern ::
    (player.fill (session.startFreeBuild pattern) 0 (cards.map Card.id) ++ [.submit])

section FreeBuild

variable {session : Session} {pattern : Pattern} {cards : List Card}
  (listed : ∀ card ∈ cards, card ∈ session.catalog.words.map Card.ofWord)
  (distinct : cards.Nodup) (fits : cards.length ≤ pattern.longest)

include listed distinct

/-- The catalog has the cards, and beside them only cards with other ids. -/
theorem exists_extra_cards :
    ∃ extra, session.catalog.words.map Card.ofWord ~ cards ++ extra ∧
      ∀ card ∈ extra, card.id ∉ cards.map Card.id := by
  let hand := session.catalog.words.map Card.ofWord
  have handNodup : hand.Nodup := by
    apply List.Nodup.of_map Card.id
    rw [Catalog.map_id_cards]
    exact session.catalog.ids_nodup
  refine ⟨hand.filter (· ∉ cards), ?_, ?_⟩
  · have wanted : hand.filter (· ∈ cards) ~ cards := by
      refine (List.perm_ext_iff_of_nodup (handNodup.filter _) distinct).mpr fun card => ?_
      rw [List.mem_filter, decide_eq_true_eq]
      exact and_iff_right_of_imp (listed card)
    have split := (List.filter_append_perm (fun card => decide (card ∈ cards)) hand).symm
    simpa using split.trans (wanted.append_right _)
  · intro card member same
    obtain ⟨inHand, absent⟩ := List.mem_filter.mp member
    obtain ⟨other, inCards, equal⟩ := List.mem_map.mp same
    obtain rfl := Catalog.eq_of_id_eq (listed other inCards) inHand equal
    simp [inCards] at absent

include fits

theorem laying_startFreeBuild :
    Laying (session.startFreeBuild pattern) (.freeBuild pattern) (pattern.longest - cards.length)
      [] cards where
  active := rfl
  cells := by
    rw [Nat.add_sub_cancel' fits]
    rfl
  hand := exists_extra_cards listed distinct
  known := fun card member other memberToo =>
    Catalog.eq_of_id_eq (listed card member) (listed other memberToo)

end FreeBuild

section Laid

variable (session : Session) (pattern : Pattern) (cards hand : List Card) (spare : Nat)

theorem isReady_laid :
    isReady (.freeBuild pattern) (session.laid cards spare hand).slots = true := by
  have free : (Challenge.freeBuild pattern).places.isEmpty = true := rfl
  simp [isReady, free, laid, Slots.leading_laid, Slots.placed_laid]

/-- What is laid out freely is right if it is a sentence, and no lesson is completed by it. -/
theorem submission_laid :
    ((session.startFreeBuild pattern).laid cards spare hand).submission (.freeBuild pattern) =
      { verdict := pattern.judge session.style cards none
        points := if (pattern.judge session.style cards none).valid then 10 else 0
        lessonComplete := false } := by
  have built : ((session.startFreeBuild pattern).laid cards spare hand).built = cards :=
    Slots.placed_laid cards spare
  have judged : (pattern.judge session.style cards none).correct =
      (pattern.judge session.style cards none).valid :=
    (pattern.judge_decides session.style cards).correct_of_free
  simp only [submission, built, ← judged]
  simp [Challenge.freeBuild, Challenge.plain, laid, startFreeBuild]
  rfl

end Laid

section BuildFreely

variable {session : Session} {pattern : Pattern} {cards : List Card}
  (listed : ∀ card ∈ cards, card ∈ session.catalog.words.map Card.ofWord)
  (distinct : cards.Nodup) (fits : cards.length ≤ pattern.longest) (player : Player)

include listed distinct fits

/-- Every card finds its slot, and what is submitted is judged like the cards alone. -/
theorem answers_buildFreely :
    let verdict := pattern.judge session.style cards none
    (session.performAll (player.buildFreely session pattern cards)).1 =
      .ok (.challenge (some (.freeBuild pattern))) ::
        (List.replicate cards.length (.ok .done) ++
          [.ok (.submission ⟨verdict, if verdict.valid then 10 else 0, false⟩)]) := by
  intro verdict
  have started : session.perform (.startFreeBuild pattern) = _ :=
    (Transition.freeBuildStarted pattern).perform_eq
  obtain ⟨hand, laid⟩ := (laying_startFreeBuild listed distinct fits).performAll_fill player
  rw [List.nil_append, List.length_nil] at laid
  have active : ((session.startFreeBuild pattern).laid cards
      (pattern.longest - cards.length) hand).challenge? = some (.freeBuild pattern) := rfl
  have submitted :=
    (Transition.submitted active (isReady_laid _ pattern cards hand _)).perform_eq
  rw [submission_laid] at submitted
  simp only [Player.buildFreely, performAll, started, performAll_append, laid, submitted, verdict]

theorem places_of_mem_steps_buildFreely :
    ∀ step ∈ session.steps (player.buildFreely session pattern cards), step.Places cards := by
  have started : session.perform (.startFreeBuild pattern) = _ :=
    (Transition.freeBuildStarted pattern).perform_eq
  have placed :=
    (laying_startFreeBuild listed distinct fits).places_of_mem_steps_fill player
  rw [List.nil_append, List.length_nil] at placed
  intro step member
  simp only [Player.buildFreely, steps, started, steps_append, List.mem_cons, List.mem_append,
    List.not_mem_nil, or_false] at member
  rcases member with rfl | placing | rfl
  · exact fun handIndex slot same => absurd same (by simp)
  · exact (placed step placing).2
  · exact fun handIndex slot same => absurd same (by simp)

end BuildFreely

/-- Any different cards of the catalog can be laid out freely and submitted, whatever has been done
in the session before, if there are no more of them than in the longest sentences of the pattern;
and no sentence has more.  The verdict is the one on the cards alone.  With the standard catalog it
is also the one that saying the cards gives, if they look like the pattern. -/
theorem free_build_judged (session : Session) (player : Player) (pattern : Pattern) :
    (∀ (style : PluralStyle) (cards : List Card) (target : Option Target),
      (pattern.judge style cards target).valid = true → cards.length ≤ pattern.longest) ∧
    ∀ cards : List Card,
      (∀ card ∈ cards, card ∈ session.catalog.words.map Card.ofWord) → cards.Nodup →
      cards.length ≤ pattern.longest →
      let operations := player.buildFreely session pattern cards
      let verdict := pattern.judge session.style cards none
      (session.performAll operations).1 =
          .ok (.challenge (some (.freeBuild pattern))) ::
            (List.replicate cards.length (.ok .done) ++
              [.ok (.submission ⟨verdict, if verdict.valid then 10 else 0, false⟩)]) ∧
        (∀ step ∈ session.steps operations, step.Places cards) ∧
        (session.catalog = .standard → detect cards = some pattern →
          ∀ other : Session, other.catalog = .standard → other.style = session.style →
            (other.perform (.say (sentence cards))).1 = .ok (.said pattern verdict)) := by
  constructor
  · intro style cards target valid
    exact ((pattern.judge_valid_iff style cards target).mp valid).length_le
  · intro cards listed distinct fits operations verdict
    have answers := answers_buildFreely listed distinct fits player
    have placed := places_of_mem_steps_buildFreely listed distinct fits player
    refine ⟨answers, placed, ?_⟩
    intro standard looks other otherStandard sameStyle
    rw [standard] at listed
    rw [answer_say_of_printsLoosely otherStandard listed (.refl _), looks, sameStyle]

theorem free_build_judged_heWhare :
    let session := start .standard .standard .usual
    let cards := ["p_he", "n_whare"].map Catalog.standard.cardOrStandIn
    let verdict := Pattern.he.judge session.style cards none
    (session.performAll (Player.first.buildFreely session .he cards)).1 =
        [.ok (.challenge (some (.freeBuild .he))), .ok .done, .ok .done,
          .ok (.submission ⟨verdict, 10, false⟩)] ∧
      (session.perform (.say (sentence cards))).1 = .ok (.said .he verdict) := by
  intro session cards verdict
  have standard : session.catalog = .standard := by simp only [session, start]
  have listed : ∀ card ∈ cards, card ∈ session.catalog.words.map Card.ofWord := by
    rw [standard]
    decide +kernel
  have distinct : cards.Nodup := by decide +kernel
  have fits : cards.length ≤ Pattern.he.longest := by decide
  have valid : verdict.valid = true := by decide +kernel
  have looks : detect cards = some .he := by decide +kernel
  obtain ⟨answers, _, said⟩ :=
    (free_build_judged session Player.first .he).2 cards listed distinct fits
  rw [if_pos valid] at answers
  exact ⟨answers, said standard looks session standard rfl⟩

end Session

end SentenceCards
