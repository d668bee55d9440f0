import SentenceCards.Attempts.Log
import SentenceCards.Curriculum.Standard
import SentenceCards.Dealing.Hand
import SentenceCards.Slots
import SentenceCards.Trace.Recorder

/-!
# Sessions

A session leads a learner through the challenges of a lesson, or through building
sentences freely.  It holds the dealt hand, the sentence under construction, the score
and the attempt log.  What is judged and hinted is recorded in its trace.
-/

namespace SentenceCards

/-- What a session begins with. -/
structure SessionPlan where
  /-- The seed for dealing. -/
  seed : UInt64
  /-- The number of decoys in a hand. -/
  decoys : Nat
  trace : Trace.Settings
  style : PluralStyle
  deriving DecidableEq, Inhabited

/-- Two decoys in a hand, and no trace. -/
def SessionPlan.usual : SessionPlan := ⟨0, 2, .usual, .annotate⟩

structure Session where
  catalog : Catalog
  curriculum : Curriculum
  style : PluralStyle
  /-- The number of decoys in a hand. -/
  decoys : Nat
  recorder : Trace.Recorder
  generator : Dealing.Generator
  /-- The lesson that was started, if the learner is not building freely. -/
  lessonId : Option String
  challenges : List Challenge
  /-- The position of the active challenge. -/
  index : Nat
  /-- The cards that have not been placed. -/
  hand : List Card
  slots : Slots
  /-- The points of the session. -/
  score : UInt32
  /-- The points since the lesson was started. -/
  lessonScore : UInt32
  log : AttemptLog

/-- The number of cards in the longest sentences of a pattern. -/
def Pattern.longest : Pattern → Nat
  | .ko => 4
  | .he => 3
  | .equative => 4
  | .keiTe => 5

/-- The number of slots for a challenge: one for each place.  If the challenge says nothing
about places, there is room for the longest sentences of its pattern. -/
def Challenge.slotCount (challenge : Challenge) : Nat :=
  if challenge.places.isEmpty then challenge.pattern.longest else challenge.places.length

/-- The challenge to build any sentence of a pattern. -/
def Challenge.freeBuild (pattern : Pattern) : Challenge :=
  { plain ("free_" ++ pattern.name) pattern with
    instruction := s!"Build any {pattern.label} sentence" }

namespace Session

/-- A session in which nothing has been started. -/
def start (catalog : Catalog) (curriculum : Curriculum) (plan : SessionPlan) : Session where
  catalog := catalog
  curriculum := curriculum
  style := plan.style
  decoys := plan.decoys
  recorder := .start plan.trace
  generator := .ofSeed plan.seed
  lessonId := none
  challenges := []
  index := 0
  hand := []
  slots := .empty 0
  score := 0
  lessonScore := 0
  log := .empty

/-- The active challenge. -/
def challenge? (session : Session) : Option Challenge := session.challenges[session.index]?

/-- Makes a challenge the active one and deals its hand. -/
def enter (session : Session) (index : Nat) (challenge : Challenge) : Session :=
  let (hand, generator) :=
    Dealing.deal session.catalog challenge session.decoys session.generator
  { session with
    generator := generator
    index := index
    hand := hand
    slots := .empty challenge.slotCount }

/-- Lets the learner build any sentence of a pattern, with all cards of the catalog. -/
def startFreeBuild (session : Session) (pattern : Pattern) : Session :=
  { session with
    lessonId := none
    challenges := [.freeBuild pattern]
    index := 0
    hand := session.catalog.words.map .ofWord
    slots := .empty pattern.longest }

/-- Goes on with another attempt log. -/
def withLog (session : Session) (log : AttemptLog) : Session := { session with log := log }

/-- Gives an order to the trace. -/
def orderTrace (session : Session) (order : Trace.Order) : Session :=
  { session with recorder := session.recorder.obey order }

/-- The session when it is this late: what is recorded from now on is recorded at this time. -/
def atTime (session : Session) (now : Nat) : Session :=
  { session with recorder := session.recorder.setTime now }

end Session

end SentenceCards
