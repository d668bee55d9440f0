import Mathlib.Data.List.Forall2
import SentenceCards.Challenge.Authoring
import SentenceCards.Dealing.Hand
import SentenceCards.Proofs.Catalog.Runs

/-!
# The places of an authored challenge

A challenge made from a sentence has a place and a required card for each token of the sentence.
The card that is dealt for the required id suits the place (`authored_places_suit`), even for a
word that the catalog lacks, where another word may have the id or none.
-/

namespace SentenceCards

/-- The card can go to the place: it is the function word that is given literally, or a word of
the category. -/
def Place.Suits : Place → Card → Prop
  | .literal surface, card =>
      card.surface = surface ∧ card.category ∈ [.particle, .article, .tenseMarker]
  | .word category, card => card.category = category

/-- The id is required for the token: that of its card, which is also the card dealt for it, or for
a word that was not read one with the letters of the word. -/
def Token.Requires (catalog : Catalog) : Token → String → Prop
  | .known card, id => id = card.id ∧ catalog.cardOrStandIn id = card
  | .unknown word, id => id = "n_" ++ foldMacrons word

theorem Place.suits_forWord (card : Card) : (forWord card.category card.surface).Suits card := by
  cases category : card.category with
  | particle | article | tenseMarker =>
      refine ⟨rfl, ?_⟩
      rw [category]
      decide
  | noun | pronoun | demonstrative | verb | adjective | intensifier | locative | timeWord =>
      exact category

section Requirement

variable {catalog : Catalog}

theorem Catalog.cardOrStandIn_of_card {id : String} {card : Card}
    (found : catalog.card id = .ok card) : catalog.cardOrStandIn id = card := by
  unfold Catalog.card at found
  unfold cardOrStandIn
  cases listed : catalog.word? id with
  | none => simp [listed] at found
  | some word => simpa [listed] using found

theorem Catalog.cardOrStandIn_of_read {text : String} {card : Card}
    (read : Token.known card ∈ catalog.read text) : catalog.cardOrStandIn card.id = card := by
  rw [← catalog.map_snd_runs] at read
  obtain ⟨⟨run, _⟩, member, rfl⟩ := List.mem_map.mp read
  exact cardOrStandIn_of_card (reading_of_mem_runs member).1

theorem Token.requirement_unknown_id (word : String) :
    (requirement catalog (.unknown word)).2 = "n_" ++ foldMacrons word := by
  simp only [requirement]
  split <;> rfl

theorem Token.requires_requirement {text : String} {token : Token}
    (read : token ∈ catalog.read text) : token.Requires catalog (token.requirement catalog).2 := by
  cases token with
  | known card => exact ⟨rfl, Catalog.cardOrStandIn_of_read read⟩
  | unknown word => exact requirement_unknown_id word

theorem Token.suits_requirement {text : String} {token : Token} (read : token ∈ catalog.read text) :
    (token.requirement catalog).1.Suits (catalog.cardOrStandIn (token.requirement catalog).2) := by
  cases token with
  | known card =>
      show (Place.forWord card.category card.surface).Suits (catalog.cardOrStandIn card.id)
      rw [Catalog.cardOrStandIn_of_read read]
      exact Place.suits_forWord card
  | unknown word =>
      unfold requirement Catalog.cardOrStandIn
      cases found : catalog.word? ("n_" ++ foldMacrons word) with
      | none =>
          simp only [found]
          rfl
      | some other =>
          simp only [found]
          exact Place.suits_forWord (.ofWord other)

end Requirement

/-- A challenge made from a sentence requires one card for each of its tokens, in order, and has as
many places.  Each place is suited by the card that is dealt for it. -/
theorem authored_places_suit (catalog : Catalog) (id : String) (pattern : Pattern)
    (target : Target) :
    let challenge := Challenge.ofTarget catalog id pattern target
    List.Forall₂ (Token.Requires catalog) (catalog.read target.surface) challenge.required ∧
      List.Forall₂ Place.Suits challenge.places (Dealing.requiredCards catalog challenge) := by
  intro challenge
  simp only [challenge, Challenge.ofTarget, Dealing.requiredCards, List.map_map,
    List.forall₂_map_left_iff, List.forall₂_map_right_iff, List.forall₂_same]
  constructor
  · intro token read
    exact Token.requires_requirement read
  · intro token read
    exact Token.suits_requirement read

/-- The letters of a word that was not read may lead to another word. -/
example :
    let catalog := Catalog.ofWords [⟨"n_tamaki", "Tāmaki Makaurau", "Auckland", .noun, .blue, 2, "",
      none, none⟩]
    let challenge := Challenge.ofTarget catalog "c" .ko ⟨"Ko Tāmaki", "It is Auckland"⟩
    challenge.required = ["n_ko", "n_tamaki"] ∧
      (Dealing.requiredCards catalog challenge).map Card.surface =
        ["?n_ko", "Tāmaki Makaurau"] := by
  decide +kernel

end SentenceCards
