/-!
# Ranges of characters

A property of characters is given as the ranges of the code points that have it.
-/

namespace SentenceCards.Text

/-- Whether a code point is in one of the ranges, each of which includes its two ends. -/
def inRanges (ranges : List (Nat × Nat)) (n : Nat) : Bool :=
  ranges.any fun range => range.1 ≤ n && n ≤ range.2

end SentenceCards.Text
