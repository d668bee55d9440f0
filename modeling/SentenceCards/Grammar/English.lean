import SentenceCards.Text.Blank

/-!
# English word forms

Glosses are short English words, sometimes with alternatives (`sit/live/stay`).  The
translations need plurals of nouns and the `-ing` forms of verbs.
-/

namespace SentenceCards.English

/-- The plural of a noun. -/
def plural (noun : String) : String :=
  if noun = "person" then "people"
  else if noun = "child" then "children"
  else noun ++ "s"

def isVowel (c : Char) : Bool := c == 'a' || c == 'e' || c == 'i' || c == 'o' || c == 'u'

/-- Whether a word, given backwards, is consonants followed by one vowel and one consonant. -/
def isShortClosed : List Char → Bool
  | last :: vowel :: onset => !isVowel last && isVowel vowel && onset.all (!isVowel ·)
  | _ => false

/-- The `-ing` form of a verb: a final `e` is dropped, and the final consonant of a short
closed syllable is doubled. -/
def ing (verb : List Char) : List Char :=
  match verb.reverse with
  | 'e' :: stem => stem.reverse ++ "ing".toList
  | last :: front =>
      if isShortClosed (last :: front) then verb ++ last :: "ing".toList
      else verb ++ "ing".toList
  | [] => "ing".toList

/-- The `-ing` form of the first alternative of a gloss. -/
def gerund (gloss : String) : String :=
  String.ofList (ing (Text.trim (gloss.toList.takeWhile (· ≠ '/'))))

end SentenceCards.English
