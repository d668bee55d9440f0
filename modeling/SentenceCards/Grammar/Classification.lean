import SentenceCards.Grammar.Identification
import SentenceCards.Grammar.Subject

/-!
# Classifying sentences

`He + noun`, with or without a subject, says what kind of thing something is.  There
is no article after He.
-/

namespace SentenceCards.Classification

def lengthCheck : Check where
  gate := .length
  passes := false
  message := "He sentences need exactly 2 or 3 cards"
  hint := "Pattern: He + noun (indefinite) OR He + noun + subject (classification)"
  explanation := none

/-- Whether a card is an article by its category or by its surface. -/
def isArticle (card : Card) : Bool := card.isA .article || card.reads articleForms

/-- Whether a card can be the subject. -/
def isSubject (card : Card) : Bool := card.isA .pronoun || card.isA .demonstrative

/-- The checks after the number of cards, in order. -/
def checks (he noun : Card) (subject : Option Card) : List Check := [
  { gate := .leader
    passes := he.surface == "He"
    message := "First card must be He"
    hint := "He classifies things into categories (a/an, not the)"
    explanation :=
      "He is used for classification - it says what KIND of thing something is" },
  { gate := .noArticle
    passes := !isArticle noun
    message := "He sentences do NOT use te or ngā"
    hint := "He pattern: He + noun (NO article!)"
    explanation :=
      "This is the KEY difference: Ko uses articles (Ko te...), but He does NOT " ++
      "(He kaiako...). He classifies, Ko identifies." },
  { gate := .noun
    passes := noun.isA .noun
    message := "Second card must be a noun"
    hint := "He + NOUN = a/an (category)"
    explanation := "After He, you need a noun that represents the category" },
  { gate := .subject
    passes := subject.all isSubject
    message := "Third card must be a pronoun or demonstrative"
    hint := "He + noun + WHO/WHAT (au, koe, ia, tēnei, etc.)"
    explanation := "The subject tells us WHO or WHAT belongs to this category" }]

def praise : Praise where
  message := "Excellent He sentence!"
  targetHint :=
    "Remember: He = classification (a teacher), Ko = identification (THE teacher)"
  freeHint :=
    "He is for CLASSIFICATION (what kind) - different from Ko (which specific thing)"

def reading (he noun : Card) : (subject : Option Card) → Reading
  | none =>
      { translation := "A " ++ noun.gloss
        roles :=
          [⟨he.surface, "classifier", "indicates classification/category (a/an/some)"⟩,
            .ofCard noun "noun"]
        praise := praise }
  | some subject =>
      { translation := (Subject.ofCard subject).clause .present ++ " a " ++ noun.gloss
        roles :=
          [⟨he.surface, "classifier", "indicates classification (a/an - not THE)"⟩,
            .ofCard noun "noun/category", .ofCard subject subject.category.name]
        praise := praise }

def verdict (cards : List Card) (target : Option Target) : Verdict :=
  match cards with
  | [he, noun] => Check.judge (checks he noun none) (reading he noun none) cards target
  | [he, noun, subject] =>
      Check.judge (checks he noun (some subject)) (reading he noun (some subject)) cards target
  | _ => lengthCheck.rejection

/-- Whether the sentence begins like this. -/
def opens : List Card → Bool
  | he :: _ => he.surface == "He"
  | [] => false

/-- What to do next. -/
def hint (cards : List Card) : Option String :=
  match cards with
  | [] => some "Start with He to classify what KIND of thing something is"
  | [he] => if he.surface = "He" then some "Good! Now add a noun (the category)" else none
  | [he, noun] =>
      if he.surface = "He" then
        some (if noun.isA .noun then
            "Complete 2-card sentence! (Optional: add subject for 3-card sentence)"
          else if noun.reads articleForms then
            "He does NOT use articles! Use: He + noun (not He + te + noun)"
          else "After He, you need a noun (category)")
      else none
  | [_, _, _] =>
      some (if (verdict cards none).valid then "Perfect He classification sentence!"
        else "Check the pattern: He + noun + subject (no articles!)")
  | _ => some "He sentences only need 2-3 cards"

end SentenceCards.Classification
