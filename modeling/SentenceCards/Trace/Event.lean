import SentenceCards.Grammar.Verdict
import SentenceCards.Pattern

/-!
# Trace events

What is recorded while a learner builds sentences.
-/

namespace SentenceCards.Trace

inductive Event where
  /-- A sentence is about to be judged. -/
  | validationStart (pattern : Pattern) (sentence : String)
  /-- A gate rejected the sentence. -/
  | gateRejected (pattern : Pattern) (gate : Gate) (message : String)
  /-- A sentence has been judged. -/
  | validationComplete (pattern : Pattern) (valid correct : Bool) (tone : Tone)
  /-- The first cards look like the pattern. -/
  | patternDetected (pattern : Pattern)
  | hintIssued (pattern : Pattern) (hint : String)
  /-- A submitted sentence was added to the attempt log. -/
  | attemptRecorded (challenge : String) (correct : Bool)
  /-- Something of the user's own. -/
  | custom (name data : String)
  deriving DecidableEq, Inhabited

/-- The kinds of events. -/
inductive Kind where
  | validationStart | gateRejected | validationComplete | patternDetected | hintIssued
  | attemptRecorded | custom
  deriving DecidableEq, Inhabited

namespace Kind

/-- Every kind. -/
def all : List Kind :=
  [validationStart, gateRejected, validationComplete, patternDetected, hintIssued,
    attemptRecorded, custom]

def name : Kind → String
  | validationStart => "validation-start"
  | gateRejected => "gate-rejected"
  | validationComplete => "validation-complete"
  | patternDetected => "pattern-detected"
  | hintIssued => "hint-issued"
  | attemptRecorded => "attempt-recorded"
  | custom => "custom"

/-- Whether events of the kind belong to the judging of a sentence. -/
def isValidation : Kind → Bool
  | validationStart | gateRejected | validationComplete => true
  | _ => false

/-- Whether events of the kind hold texts that are copied for them. -/
def copiesTexts : Kind → Bool
  | validationStart | gateRejected | hintIssued | attemptRecorded => true
  | validationComplete | patternDetected | custom => false

end Kind

namespace Event

def kind : Event → Kind
  | validationStart .. => .validationStart
  | gateRejected .. => .gateRejected
  | validationComplete .. => .validationComplete
  | patternDetected .. => .patternDetected
  | hintIssued .. => .hintIssued
  | attemptRecorded .. => .attemptRecorded
  | custom .. => .custom

/-- The pattern that the event is about. -/
def pattern? : Event → Option Pattern
  | validationStart pattern _ | gateRejected pattern _ _ | validationComplete pattern _ _ _
  | patternDetected pattern | hintIssued pattern _ => some pattern
  | attemptRecorded .. | custom .. => none

/-- The gate that rejected a sentence. -/
def gate? : Event → Option Gate
  | gateRejected _ gate _ => some gate
  | _ => none

end Event

/-- An event with its number, the attempt it belongs to, and the time in nanoseconds. -/
structure Record where
  id : Nat
  attempt : Nat
  time : Nat
  event : Event
  deriving DecidableEq, Inhabited

end SentenceCards.Trace
