import SentenceCards.Failure

/-!
# Sentence patterns
-/

namespace SentenceCards

/-- The four families of sentences. -/
inductive Pattern where
  /-- Says which thing something is: `Ko te whare (tēnei)`. -/
  | ko
  /-- Says what kind of thing something is: `He whare (tēnei)`. -/
  | he
  /-- Says who someone is: `Ko au te kaiako`. -/
  | equative
  /-- Says what someone is, does or did: `Kei te pai au`. -/
  | keiTe
  deriving DecidableEq, Inhabited

namespace Pattern

/-- Every pattern, in the order in which they are listed. -/
def all : List Pattern := [ko, he, equative, keiTe]

/-- The name under which a pattern is stored. -/
def name : Pattern → String
  | ko => "ko"
  | he => "he"
  | equative => "equative"
  | keiTe => "kei_te"

/-- The name shown to the learner. -/
def label : Pattern → String
  | ko => "Ko"
  | he => "He"
  | equative => "Equative"
  | keiTe => "Kei te"

/-- The pattern with the given name. -/
def ofName? (name : String) : Option Pattern :=
  all.find? (·.name == name)

/-- The pattern with the given name, or a failure that shows the name. -/
def ofName (name : String) : Except Failure Pattern :=
  match ofName? name with
  | some pattern => .ok pattern
  | none => .error (Cause.unknownPattern name).failure

theorem ofName?_name (pattern : Pattern) : ofName? pattern.name = some pattern := by
  cases pattern <;> decide

end Pattern

end SentenceCards
