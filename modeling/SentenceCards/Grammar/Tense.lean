/-!
# Tenses

The word that opens a sentence marks its tense, and the English verb agrees with its
subject.
-/

namespace SentenceCards

/-- Agreement of an English subject, named by the present tense. -/
inductive Agreement where
  | am | are | is
  deriving DecidableEq, Inhabited

def Agreement.name : Agreement → String
  | .am => "am"
  | .are => "are"
  | .is => "is"

inductive Tense where
  | present | past | future
  deriving DecidableEq, Inhabited

namespace Tense

/-- Every tense. -/
def all : List Tense := [present, past, future]

/-- The Māori word for the tense. -/
def marker : Tense → String
  | present => "Kei te"
  | past => "I"
  | future => "Ka"

/-- The tense that a surface marks. -/
def ofMarker? (surface : String) : Option Tense :=
  all.find? (·.marker == surface)

/-- The English verb in this tense. -/
def verb : Tense → Agreement → String
  | present, agreement => agreement.name
  | past, .are => "were"
  | past, _ => "was"
  | future, _ => "will be"

def description : Tense → String
  | present => "present continuous"
  | past => "past tense"
  | future => "future tense"

end Tense

end SentenceCards
