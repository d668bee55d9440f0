import SentenceCards.Text.ClusterTable

/-!
# Grapheme clusters

What a reader takes for one character may be several characters: a letter and its accents, a
Hangul syllable, a flag, a family of pictographs.  A text is cut into its extended grapheme
clusters by the rules of Unicode; `flatten_clusters` says that nothing is lost.
-/

namespace SentenceCards.Text

/-- What matters of a character when a text is cut into clusters. -/
inductive ClusterKind where
  | carriageReturn
  | lineFeed
  | control
  | extending
  /-- The zero width joiner. -/
  | joiner
  | spacing
  | prepended
  /-- A regional indicator, two of which make a flag. -/
  | indicator
  /-- A consonant at the beginning of a Hangul syllable. -/
  | leading
  /-- A vowel of a Hangul syllable. -/
  | vowel
  /-- A consonant at the end of a Hangul syllable. -/
  | trailing
  /-- A Hangul syllable that ends in its vowel. -/
  | openSyllable
  /-- A Hangul syllable that ends in a consonant. -/
  | closedSyllable
  | pictograph
  /-- A consonant that a linker may bind to the one before it. -/
  | linked
  | other
  deriving DecidableEq, Inhabited

namespace ClusterKind

/-- The kind of a part of a Hangul syllable, or of a whole one. -/
def ofHangul? (n : Nat) : Option ClusterKind :=
  if inRanges [(0x1100, 0x115F), (0xA960, 0xA97C)] n then some .leading
  else if inRanges [(0x1160, 0x11A7), (0xD7B0, 0xD7C6), (0x16D63, 0x16D63), (0x16D67, 0x16D6A)] n
  then some .vowel
  else if inRanges [(0x11A8, 0x11FF), (0xD7CB, 0xD7FB)] n then some .trailing
  else if inRanges [(0xAC00, 0xD7A3)] n then
    some (if (n - 0xAC00) % 28 = 0 then .openSyllable else .closedSyllable)
  else none

/-- The kind of a character. -/
def ofChar (c : Char) : ClusterKind :=
  let n := c.toNat
  if c = '\r' then .carriageReturn
  else if c = '\n' then .lineFeed
  else if 0x20 ≤ n && n < 0x7F then .other
  else if n = 0x200D then .joiner
  else if inRanges controlRanges n then .control
  else if inRanges extendingRanges n then .extending
  else if inRanges spacingRanges n then .spacing
  else if inRanges prependedRanges n then .prepended
  else if inRanges [(0x1F1E6, 0x1F1FF)] n then .indicator
  else if inRanges pictographRanges n then .pictograph
  else if inRanges linkedRanges n then .linked
  else (ofHangul? n).getD .other

/-- Stands alone, whatever its neighbours are. -/
def isAlone (kind : ClusterKind) : Bool :=
  kind == .control || kind == .carriageReturn || kind == .lineFeed

/-- Whether two neighbours in a Hangul syllable may have these kinds. -/
def joinsHangul (first second : ClusterKind) : Bool :=
  match first with
  | .leading => second == .leading || second == .vowel || second == .openSyllable ||
      second == .closedSyllable
  | .openSyllable | .vowel => second == .vowel || second == .trailing
  | .closedSyllable | .trailing => second == .trailing
  | _ => false

end ClusterKind

/-- Whether a text that is given backwards ends in a pictograph and a joiner, with nothing but
extending characters between them. -/
def endsJoining : List Char → Bool
  | [] => false
  | last :: earlier =>
      ClusterKind.ofChar last == .joiner &&
        (earlier.dropWhile fun c => ClusterKind.ofChar c == .extending).head?.any fun c =>
          ClusterKind.ofChar c == .pictograph

/-- Binds two consonants to each other. -/
def isLinker (c : Char) : Bool := inRanges linkerRanges c.toNat

/-- May stand between a consonant and the next one that is bound to it.  All that extends does,
the non-joiner apart. -/
def isBetweenLinked (c : Char) : Bool :=
  c.toNat != 0x200C && (ClusterKind.ofChar c == .extending || ClusterKind.ofChar c == .joiner)

/-- Whether a text that is given backwards ends in a consonant bound to the next one. -/
def endsLinking (before : List Char) : Bool :=
  (before.takeWhile isBetweenLinked).any isLinker &&
    (before.dropWhile isBetweenLinked).head?.any fun c => ClusterKind.ofChar c == .linked

/-- Whether a text that is given backwards ends in the first half of a flag. -/
def endsHalfFlag (before : List Char) : Bool :=
  (before.takeWhile fun c => ClusterKind.ofChar c == .indicator).length % 2 = 1

/-- Whether a cluster goes on with `c`.  Its characters so far are given backwards. -/
def goesOn (before : List Char) (c : Char) : Bool :=
  let next := ClusterKind.ofChar c
  match before.head?.map ClusterKind.ofChar with
  | none => true
  | some last =>
      if last = .carriageReturn ∧ next = .lineFeed then true
      else if last.isAlone || next.isAlone then false
      else
        last.joinsHangul next || next == .extending || next == .joiner || next == .spacing ||
          last == .prepended ||
          (next == .linked && endsLinking before) ||
          (next == .pictograph && endsJoining before) ||
          (next == .indicator && endsHalfFlag before)

/-- The clusters of a text that follows the beginning of a cluster, which is given backwards. -/
def clustersAfter (before : List Char) : List Char → List (List Char)
  | [] => [before.reverse]
  | c :: rest =>
      if goesOn before c then clustersAfter (c :: before) rest
      else before.reverse :: clustersAfter [c] rest

/-- The extended grapheme clusters of a text. -/
def clusters : List Char → List (List Char)
  | [] => []
  | c :: rest => clustersAfter [c] rest

theorem flatten_clustersAfter (before text : List Char) :
    (clustersAfter before text).flatten = before.reverse ++ text := by
  induction text generalizing before with
  | nil => simp [clustersAfter]
  | cons c rest ih =>
      unfold clustersAfter
      split
      · rw [ih]
        simp
      · simp [ih]

/-- The clusters of a text, put together again, are the text. -/
theorem flatten_clusters (text : List Char) : (clusters text).flatten = text := by
  cases text with
  | nil => rfl
  | cons c rest => simpa [clusters] using flatten_clustersAfter [c] rest

end SentenceCards.Text
