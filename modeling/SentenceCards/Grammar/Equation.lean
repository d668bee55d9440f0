import SentenceCards.Grammar.Identification
import SentenceCards.Grammar.Subject

/-!
# Equating sentences

`Ko + pronoun + te/ngā + noun` says who someone is.
-/

namespace SentenceCards.Equation

def lengthCheck : Check where
  gate := .length
  passes := false
  message := "Equative sentences need exactly 4 cards"
  hint := "Pattern: Ko + pronoun + te/ngā + noun"
  explanation := none

/-- The checks after the number of cards, in order. -/
def checks (ko pronoun article noun : Card) : List Check := [
  { gate := .leader
    passes := ko.surface == "Ko"
    message := "First card must be Ko"
    hint := "Ko introduces WHO someone is"
    explanation := "Equative sentences start with Ko to identify a specific person" },
  { gate := .pronoun
    passes := pronoun.isA .pronoun
    message := "Second card must be a pronoun (au, koe, ia)"
    hint := "Pattern: Ko + PRONOUN + te/ngā + noun"
    explanation := "The pronoun tells us WHO we're talking about" },
  { gate := .article
    passes := article.reads articleForms
    message := "Third card must be te or ngā"
    hint := "Ko + pronoun + ARTICLE + noun"
    explanation := "You need an article (te/ngā) before the noun" },
  { gate := .noun
    passes := noun.isA .noun
    message := "Fourth card must be a noun"
    hint := "The noun tells us WHAT the person is"
    explanation :=
      "Equative sentences identify WHO someone is: Ko + pronoun + te/ngā + NOUN" }]

def reading (ko pronoun article noun : Card) : Reading :=
  let who := Subject.ofCard pronoun
  let thing := if article.surface = "ngā" then English.plural noun.gloss else noun.gloss
  { translation := who.clause .present ++ " the " ++ thing
    roles :=
      [⟨ko.surface, "particle", "introduces specific person/identity"⟩,
        ⟨pronoun.surface, "pronoun", who.meaning⟩,
        ⟨article.surface, "article", Identification.articleMeaning article⟩,
        .ofCard noun "noun"]
    praise := ⟨"Excellent equative sentence!", none, none⟩ }

def verdict (cards : List Card) (target : Option Target) : Verdict :=
  match cards with
  | [ko, pronoun, article, noun] =>
      Check.judge (checks ko pronoun article noun) (reading ko pronoun article noun) cards target
  | _ => lengthCheck.rejection

/-- Whether the sentence begins like this. -/
def opens : List Card → Bool
  | ko :: pronoun :: _ => ko.surface == "Ko" && pronoun.isA .pronoun
  | _ => false

/-- What to do next. -/
def hint (cards : List Card) : Option String :=
  match cards with
  | [] => some "Start with Ko to introduce WHO someone is"
  | [ko] => if ko.surface = "Ko" then some "Good! Now add a pronoun (au, koe, ia)" else none
  | [ko, pronoun] =>
      if ko.surface = "Ko" then
        some (if pronoun.isA .pronoun then "Perfect! Now add te or ngā"
          else "After Ko, you need a pronoun (au, koe, or ia)")
      else none
  | [ko, pronoun, article] =>
      if ko.surface = "Ko" ∧ pronoun.isA .pronoun then
        some (if article.reads articleForms then
            "Almost there! Now add a noun to complete the sentence"
          else "After the pronoun, you need te or ngā")
      else none
  | [_, _, _, _] =>
      some (if (verdict cards none).valid then "Perfect equative sentence!"
        else "Check the pattern: Ko + pronoun + te/ngā + noun")
  | _ => none

end SentenceCards.Equation
