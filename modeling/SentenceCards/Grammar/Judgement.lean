import SentenceCards.Grammar.Classification
import SentenceCards.Grammar.Equation
import SentenceCards.Grammar.Identification
import SentenceCards.Grammar.Predication

/-!
# Judging sentences

Verdicts, hints and recognition for all four patterns.
-/

namespace SentenceCards

namespace Pattern

/-- The verdict on a sentence as one of the pattern. -/
def judge (pattern : Pattern) (style : PluralStyle) (cards : List Card)
    (target : Option Target) : Verdict :=
  match pattern with
  | ko => Identification.verdict style cards target
  | he => Classification.verdict cards target
  | equative => Equation.verdict cards target
  | keiTe => Predication.verdict cards target

/-- Whether the first cards look like the beginning of a sentence of the pattern. -/
def opens : Pattern → List Card → Bool
  | ko => Identification.opens
  | he => Classification.opens
  | equative => Equation.opens
  | keiTe => Predication.opens

/-- What to do next on the way to a sentence of the pattern. -/
def hint : Pattern → List Card → Option String
  | ko => Identification.hint
  | he => Classification.hint
  | equative => Equation.hint
  | keiTe => Predication.hint

end Pattern

/-- The pattern that the first cards look like.  Equating sentences come before
identifying ones, since both begin with Ko. -/
def detect (cards : List Card) : Option Pattern :=
  [Pattern.equative, .ko, .he, .keiTe].find? (·.opens cards)

end SentenceCards
