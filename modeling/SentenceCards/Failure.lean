/-!
# What can go wrong

A command that cannot be carried out reports a `Failure`: its cause, and sometimes
where it arose.  A sentence that breaks a rule of grammar is no failure; it has a
verdict.
-/

namespace SentenceCards

/-- Why a command could not be carried out. -/
inductive Cause where
  /-- No catalog word has this id, or no catalog word is written so. -/
  | wordNotFound (id : String)
  | unknownPattern (name : String)
  | challengeNotFound (id : String)
  | lessonNotFound (id : String)
  | moduleNotFound (id : String)
  /-- The sentence has only `count` slots. -/
  | slotOutOfRange (index count : Nat)
  | slotOccupied (index : Nat)
  | slotEmpty (index : Nat)
  | noActiveChallenge
  /-- A sentence with empty slots was submitted. -/
  | incompleteSentence (empty : Nat)
  | noHandCard (index : Nat)
  /-- A file could not be read or written. -/
  | fileTrouble (text : String)
  /-- A file does not hold an attempt log. -/
  | undecodable (text : String)
  | unknownCommand (command : String)
  /-- The arguments of a command do not have the given form. -/
  | wrongUsage (form : String)
  | internal (text : String)
  deriving DecidableEq, Inhabited

/-- The wording of a cause. -/
def Cause.message : Cause → String
  | .wordNotFound id => s!"word not found: {id}"
  | .unknownPattern name => s!"unknown sentence pattern: {name}"
  | .challengeNotFound id => s!"challenge not found: {id}"
  | .lessonNotFound id => s!"lesson not found: {id}"
  | .moduleNotFound id => s!"module not found: {id}"
  | .slotOutOfRange index count => s!"slot {index} out of range (sentence has {count} slots)"
  | .slotOccupied index => s!"slot {index} is already occupied"
  | .slotEmpty index => s!"slot {index} is empty"
  | .noActiveChallenge => "no active challenge (start a lesson or free build first)"
  | .incompleteSentence empty => s!"complete the sentence first ({empty} empty slot(s))"
  | .noHandCard index => s!"no card at hand position {index}"
  | .fileTrouble text => s!"I/O error: {text}"
  | .undecodable text => s!"serialization error: {text}"
  | .unknownCommand command => s!"internal error: unknown command: {command} (try :help)"
  | .wrongUsage form => s!"internal error: usage: {form}"
  | .internal text => s!"internal error: {text}"

/-- Where a failure arose: what was being worked on, and the steps that led there. -/
structure Origin where
  source : Option String
  steps : List String
  deriving DecidableEq, Inhabited

/-- The wording of an origin, one line for each step. -/
def Origin.text (origin : Origin) : String :=
  let source := match origin.source with
    | some source => "at " ++ source
    | none => ""
  if origin.steps.isEmpty then source
  else source ++ "\n" ++ String.join (origin.steps.map fun step => "  in " ++ step ++ "\n")

/-- A cause, with its origin if that is known. -/
structure Failure where
  cause : Cause
  origin : Option Origin
  deriving DecidableEq, Inhabited

/-- A failure without an origin. -/
def Cause.failure (cause : Cause) : Failure := ⟨cause, none⟩

/-- A failure in the step `step` of work on `source`. -/
def Cause.during (cause : Cause) (source step : String) : Failure :=
  ⟨cause, some ⟨some source, [step]⟩⟩

/-- The same cause, said to have arisen in the step `step` of work on `source`. -/
def Failure.during (failure : Failure) (source step : String) : Failure :=
  failure.cause.during source step

/-- A failure is worded as its cause. -/
def Failure.message (failure : Failure) : String := failure.cause.message

end SentenceCards
