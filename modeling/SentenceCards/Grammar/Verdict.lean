import SentenceCards.Card
import SentenceCards.Challenge.Basic

/-!
# Verdicts

Every sentence has a verdict.  A pattern checks a sentence in a fixed order of gates,
and the first gate that is shut rejects it; a sentence that passes all of them is
compared with the target.
-/

namespace SentenceCards

/-- What a sentence can be rejected for. -/
inductive Gate where
  /-- The number of cards. -/
  | length
  /-- The word that opens the sentence. -/
  | leader
  /-- `te` or `ngā` is missing. -/
  | article
  /-- An article stands where none may be. -/
  | noArticle
  | noun
  | demonstrative
  | pronoun
  /-- A pronoun or demonstrative is missing. -/
  | subject
  /-- An adjective or verb is missing. -/
  | predicate
  | intensifier
  | verb
  | locative
  /-- A place or an object is missing. -/
  | complement
  deriving DecidableEq, Inhabited

namespace Gate

/-- Every gate. -/
def all : List Gate :=
  [length, leader, article, noArticle, noun, demonstrative, pronoun, subject, predicate,
    intensifier, verb, locative, complement]

def name : Gate → String
  | length => "length"
  | leader => "leader"
  | article => "article"
  | noArticle => "no-article"
  | noun => "noun"
  | demonstrative => "demonstrative"
  | pronoun => "pronoun"
  | subject => "subject"
  | predicate => "predicate"
  | intensifier => "intensifier"
  | verb => "verb"
  | locative => "locative"
  | complement => "complement"

/-- The gate with the given name. -/
def ofName? (name : String) : Option Gate := all.find? (·.name == name)

end Gate

/-- How feedback is meant. -/
inductive Tone where
  /-- The sentence is right. -/
  | success
  /-- The sentence is valid and not the one asked for. -/
  | warning
  /-- A gate rejected the sentence. -/
  | error
  deriving DecidableEq, Inhabited

namespace Tone

/-- Every tone. -/
def all : List Tone := [success, warning, error]

def name : Tone → String
  | success => "success"
  | warning => "warning"
  | error => "error"

/-- The tone with the given name. -/
def ofName? (name : String) : Option Tone := all.find? (·.name == name)

end Tone

/-- What the learner is told. -/
structure Feedback where
  tone : Tone
  message : String
  hint : Option String
  explanation : Option String
  /-- Whether the sentence is praised as natural. -/
  natural : Bool
  deriving DecidableEq, Inhabited

/-- The part that a word plays in a sentence. -/
structure Role where
  word : String
  role : String
  meaning : String
  deriving DecidableEq, Inhabited

/-- The role of a card whose meaning is its gloss. -/
def Role.ofCard (card : Card) (role : String) : Role := ⟨card.surface, role, card.gloss⟩

/-- What came of checking a sentence. -/
inductive Outcome where
  | rejected (gate : Gate)
  /-- The sentence is valid; it is correct if it is the one asked for. -/
  | accepted (correct : Bool) (translation : String) (roles : List Role)
  deriving DecidableEq, Inhabited

structure Verdict where
  outcome : Outcome
  feedback : Feedback
  deriving DecidableEq, Inhabited

namespace Verdict

def valid (verdict : Verdict) : Bool :=
  match verdict.outcome with
  | .rejected _ => false
  | .accepted .. => true

def correct (verdict : Verdict) : Bool :=
  match verdict.outcome with
  | .rejected _ => false
  | .accepted correct .. => correct

def gate? (verdict : Verdict) : Option Gate :=
  match verdict.outcome with
  | .rejected gate => some gate
  | .accepted .. => none

/-- The English translation, empty for a rejected sentence. -/
def translation (verdict : Verdict) : String :=
  match verdict.outcome with
  | .rejected _ => ""
  | .accepted _ translation _ => translation

/-- The roles of the words, none for a rejected sentence. -/
def roles (verdict : Verdict) : List Role :=
  match verdict.outcome with
  | .rejected _ => []
  | .accepted _ _ roles => roles

end Verdict

/-- A gate, whether the sentence passes it, and what is said if it does not. -/
structure Check where
  gate : Gate
  passes : Bool
  message : String
  hint : String
  explanation : Option String
  deriving DecidableEq, Inhabited

/-- The verdict on a sentence that does not pass. -/
def Check.rejection (check : Check) : Verdict where
  outcome := .rejected check.gate
  feedback := ⟨.error, check.message, some check.hint, check.explanation, false⟩

/-- The wording of success, which differs from pattern to pattern. -/
structure Praise where
  /-- Said of a valid sentence where none was asked for. -/
  message : String
  targetHint : Option String
  freeHint : Option String

/-- A sentence that passes every gate, with its translation and the roles of its words. -/
structure Reading where
  translation : String
  roles : List Role
  praise : Praise

/-- The verdict on a valid sentence. -/
def Reading.verdict (reading : Reading) (cards : List Card) : (target : Option Target) → Verdict
  | some target =>
      if sentence cards = target.normalized then
        { outcome := .accepted true reading.translation reading.roles
          feedback := {
            tone := .success
            message := "Perfect!"
            hint := reading.praise.targetHint
            explanation := s!"\"{target.surface}\" means \"{target.gloss}\""
            natural := true } }
      else
        { outcome := .accepted false reading.translation reading.roles
          feedback := {
            tone := .warning
            message := "Grammatically correct, but not the target sentence"
            hint := s!"The challenge asked for: \"{target.surface}\""
            explanation :=
              s!"You built: \"{sentence cards}\" which means \"{reading.translation}\""
            natural := false } }
  | none =>
      { outcome := .accepted true reading.translation reading.roles
        feedback := {
          tone := .success
          message := reading.praise.message
          hint := reading.praise.freeHint
          explanation := s!"\"{sentence cards}\" means \"{reading.translation}\""
          natural := true } }

/-- The first check that a sentence does not pass decides; if it passes all, it is valid. -/
def Check.judge (checks : List Check) (reading : Reading) (cards : List Card)
    (target : Option Target) : Verdict :=
  match checks.find? (!·.passes) with
  | some check => check.rejection
  | none => reading.verdict cards target

end SentenceCards
