import SentenceCards.Proofs.Catalog.Separation
import SentenceCards.Proofs.Grammar.Detection

/-!
# Saying printed sentences

In a session with the standard catalog any list of its cards can be said by its printed sentence,
with other white space and with punctuation as well.  The cards are read back, and it is they that
are judged (`printed_cards_read_back`).
-/

namespace SentenceCards.Session

variable {session : Session} {cards : List Card} {text : String}

theorem answer_say_of_printsLoosely (standard : session.catalog = .standard)
    (listed : ∀ card ∈ cards, card ∈ Catalog.standard.words.map Card.ofWord)
    (prints : PrintsLoosely (sentence cards) text) :
    (session.perform (.say text)).1 =
      match detect cards with
      | none => .error (Cause.unknownPattern (sentence cards)).failure
      | some pattern => .ok (.said pattern (pattern.judge session.style cards none)) := by
  apply answer_say
  rw [standard]
  exact Catalog.cardsOf_of_read (Catalog.separable_standard.read_sentence listed prints)

end SentenceCards.Session
