import SentenceCards.Grammar.English
import SentenceCards.Grammar.Verdict

/-!
# Identifying sentences

`Ko + te/ngā + noun`, with or without a demonstrative, says which thing is meant.
-/

namespace SentenceCards

/-- How a noun after `ngā` is translated in an identifying sentence. -/
inductive PluralStyle where
  /-- By the singular, with a note if there is no demonstrative. -/
  | annotate
  /-- By the plural. -/
  | pluralize
  deriving DecidableEq, Inhabited

/-- The written forms of the article. -/
def articleForms : List String := ["te", "ngā"]

namespace Identification

def lengthCheck : Check where
  gate := .length
  passes := false
  message := "Need exactly 3 or 4 cards for Ko sentences"
  hint := "Pattern: Ko + te/ngā + noun (+ optional demonstrative)"
  explanation := none

/-- The checks after the number of cards, in order. -/
def checks (ko article noun : Card) (demonstrative : Option Card) : List Check := [
  { gate := .leader
    passes := ko.surface == "Ko"
    message := "First card must be Ko"
    hint := "Ko comes first - it introduces the specific thing"
    explanation := "Ko is the definite particle that starts these sentences" },
  { gate := .article
    passes := article.reads articleForms
    message := "Second card must be te or ngā"
    hint := "Use te for singular, ngā for plural"
    explanation :=
      "Articles come after Ko to specify if the noun is singular or plural" },
  { gate := .noun
    passes := noun.isA .noun
    message := "Third card must be a noun"
    hint := "A noun is a thing (whare, ngeru, tangata, etc.)"
    explanation := "The sentence needs to end with what thing you are identifying" },
  { gate := .demonstrative
    passes := demonstrative.all (·.isA .demonstrative)
    message := "Fourth card must be a demonstrative (tēnei, tēnā, tērā)"
    hint := "Demonstratives point out WHERE the thing is"
    explanation :=
      "Use tēnei (this/near me), tēnā (that/near you), or tērā (that/over there)" }]

/-- A note on the distance that a demonstrative points to. -/
def distance (demonstrative : Card) : String :=
  if demonstrative.surface = "tēnei" then " (this/near me)"
  else if demonstrative.surface = "tēnā" then " (that/near you)"
  else if demonstrative.surface = "tērā" then " (that/over there)"
  else ""

/-- How the English sentence begins. -/
def opening (near plural : Bool) : String :=
  match near, plural with
  | true, false => "This is"
  | false, false => "That is"
  | true, true => "These are"
  | false, true => "Those are"

def translation (style : PluralStyle) (article noun : Card) (demonstrative : Option Card) :
    String :=
  let several := article.surface == "ngā"
  let inflected := several && style == .pluralize
  let thing := if inflected then English.plural noun.gloss else noun.gloss
  match demonstrative with
  | none => "The " ++ thing ++ (if several && !inflected then " (plural)" else "")
  | some pointer =>
      opening (pointer.surface == "tēnei") inflected ++ " the " ++ thing ++ distance pointer

/-- What an article means. -/
def articleMeaning (article : Card) : String :=
  if article.surface = "ngā" then "the (plural)" else "the (singular)"

def reading (style : PluralStyle) (ko article noun : Card) (demonstrative : Option Card) :
    Reading where
  translation := translation style article noun demonstrative
  roles :=
    [⟨ko.surface, "definite particle", "introduces specific thing"⟩,
      ⟨article.surface, "article", articleMeaning article⟩, .ofCard noun "noun"] ++
    demonstrative.toList.map (.ofCard · "demonstrative")
  praise := ⟨"Excellent sentence!", none, none⟩

def verdict (style : PluralStyle) (cards : List Card) (target : Option Target) : Verdict :=
  match cards with
  | [ko, article, noun] =>
      Check.judge (checks ko article noun none) (reading style ko article noun none) cards target
  | [ko, article, noun, demonstrative] =>
      Check.judge (checks ko article noun (some demonstrative))
        (reading style ko article noun (some demonstrative)) cards target
  | _ => lengthCheck.rejection

/-- Whether the sentence begins like this. -/
def opens : List Card → Bool
  | ko :: _ => ko.surface == "Ko"
  | [] => false

/-- What to do next. -/
def hint (cards : List Card) : Option String :=
  let valid := (verdict .annotate cards none).valid
  match cards with
  | [] => some "Start with Ko to introduce a specific thing"
  | [ko] => if ko.surface = "Ko" then some "Good! Now add te (singular) or ngā (plural)" else none
  | [ko, article] =>
      if ko.surface = "Ko" then
        some (if article.reads articleForms then "Perfect! Now add a noun (thing)"
          else "After Ko, you need te or ngā")
      else none
  | [_, _, _] =>
      if valid then some "Your sentence is complete! (Optional: add a demonstrative)" else none
  | _ =>
      some (if valid then "Perfect sentence with demonstrative!"
        else "Check the fourth card - should be tēnei, tēnā, or tērā")

end Identification

end SentenceCards
