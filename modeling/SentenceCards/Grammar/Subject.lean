import SentenceCards.Card
import SentenceCards.Grammar.Tense

/-!
# Subjects

How pronouns and demonstratives read as the subject of an English sentence.
-/

namespace SentenceCards

structure Subject where
  /-- The subject at the beginning of a sentence. -/
  phrase : String
  agreement : Agreement
  /-- The subject on its own. -/
  meaning : String
  deriving DecidableEq, Inhabited

namespace Subject

/-- The surfaces with a subject of their own. -/
def table : List (String × Subject) := [
  ("au", ⟨"I", .am, "I"⟩),
  ("koe", ⟨"You", .are, "you"⟩),
  ("ia", ⟨"He/She", .is, "he/she"⟩),
  ("tāua", ⟨"We two (you and I)", .are, "we two (you and I)"⟩),
  ("māua", ⟨"We two (not you)", .are, "we two (not you)"⟩),
  ("tātou", ⟨"We all", .are, "we all"⟩),
  ("mātou", ⟨"We (not you)", .are, "we (not you)"⟩),
  ("kōrua", ⟨"You two", .are, "you two"⟩),
  ("rāua", ⟨"They two", .are, "they two"⟩),
  ("koutou", ⟨"You (plural)", .are, "you (plural)"⟩),
  ("rātou", ⟨"They", .are, "they"⟩),
  ("tēnei", ⟨"This", .is, "this"⟩),
  ("tēnā", ⟨"That (near you)", .is, "that (near you)"⟩),
  ("tērā", ⟨"That (over there)", .is, "that (over there)"⟩),
  ("ēnei", ⟨"These", .are, "these"⟩),
  ("ēnā", ⟨"Those (near you)", .are, "those (near you)"⟩),
  ("ērā", ⟨"Those (over there)", .are, "those (over there)"⟩)]

/-- The subject that a card stands for.  A card whose surface is not in the table reads as
its gloss, in the third person singular. -/
def ofCard (card : Card) : Subject :=
  (table.lookup card.surface).getD ⟨card.gloss, .is, card.gloss⟩

/-- The subject and the verb in a tense. -/
def clause (subject : Subject) (tense : Tense) : String :=
  subject.phrase ++ " " ++ tense.verb subject.agreement

end Subject

end SentenceCards
