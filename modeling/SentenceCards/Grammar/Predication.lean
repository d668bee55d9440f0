import SentenceCards.Grammar.English
import SentenceCards.Grammar.Subject
import SentenceCards.Grammar.Verdict

/-!
# Predicating sentences

A tense marker opens a sentence that says what someone is, does or did:

* marker, adjective or verb, pronoun;
* marker, intensifier, adjective or verb, pronoun;
* marker, verb, pronoun, locative particle, place.
-/

namespace SentenceCards.Predication

def praise : Tense → Praise
  | .present =>
      { message := "Excellent Kei te sentence!"
        targetHint := "Remember: Kei te = present continuous (happening right now!)"
        freeHint := "Kei te indicates present continuous - actions happening RIGHT NOW!" }
  | .past =>
      { message := "Excellent past tense sentence!"
        targetHint := "Remember: I = past tense (it already happened)"
        freeHint := "I marks actions and states that already happened" }
  | .future =>
      { message := "Excellent future tense sentence!"
        targetHint := "Remember: Ka = future tense (it will happen)"
        freeHint := "Ka marks actions and states that will happen" }

def lengthCheck : Check where
  gate := .length
  passes := false
  message := "Kei te sentences need 3, 4, or 5 cards"
  hint := "Pattern: Kei te + adjective/verb + subject (+ optional intensifier or location)"
  explanation := none

def leaderCheck : Check where
  gate := .leader
  passes := false
  message := "First card must be \"Kei te\" (or the tense markers I, Ka)"
  hint := "Kei te indicates actions or states happening RIGHT NOW"
  explanation := "Kei te is the present continuous tense marker"

/-- Whether a card says what someone is or does. -/
def isPredicate (card : Card) : Bool := card.isA .adjective || card.isA .verb

/-- Whether a card says where an action takes place. -/
def isComplement (card : Card) : Bool := card.isA .noun || card.isA .article

/-- An adjective as it is, a verb in its `-ing` form. -/
def predicateEnglish (card : Card) : String :=
  if card.isA .adjective then card.gloss else English.gerund card.gloss

/-- The checks on the cards after the marker of a sentence of three cards. -/
def shortChecks (predicate pronoun : Card) : List Check := [
  { gate := .predicate
    passes := isPredicate predicate
    message := "Second card must be an adjective or verb"
    hint := "Kei te + [adjective/verb] + pronoun"
    explanation :=
      "Adjectives describe states (pai, harikoa), verbs describe actions (haere, kai)" },
  { gate := .pronoun
    passes := pronoun.isA .pronoun
    message := "Third card must be a pronoun"
    hint := "Kei te + adjective/verb + WHO (au, koe, ia, etc.)"
    explanation :=
      "The pronoun tells us WHO is experiencing this state or doing this action" }]

def shortReading (tense : Tense) (marker predicate pronoun : Card) : Reading where
  translation := (Subject.ofCard pronoun).clause tense ++ " " ++ predicateEnglish predicate
  roles :=
    [⟨marker.surface, "tense marker",
        if tense = .present then "present continuous (right now)" else tense.description⟩,
      .ofCard predicate predicate.category.name, .ofCard pronoun "pronoun"]
  praise := praise tense

/-- The checks on the cards after the marker of a sentence of four cards. -/
def intensifiedChecks (intensifier predicate pronoun : Card) : List Check := [
  { gate := .intensifier
    passes := intensifier.isA .intensifier
    message := "For 4-card sentences, second card should be an intensifier"
    hint := "Kei te + [tino/āhua] + adjective/verb + pronoun"
    explanation :=
      "Intensifiers (tino=very, āhua=somewhat) modify the adjective or verb" },
  { gate := .predicate
    passes := isPredicate predicate
    message := "Third card must be an adjective or verb"
    hint := "Kei te + intensifier + [adjective/verb] + pronoun"
    explanation := none },
  { gate := .pronoun
    passes := pronoun.isA .pronoun
    message := "Fourth card must be a pronoun"
    hint := "Kei te + intensifier + adjective/verb + WHO"
    explanation := none }]

def intensifiedReading (tense : Tense) (marker intensifier predicate pronoun : Card) :
    Reading where
  translation :=
    (Subject.ofCard pronoun).clause tense ++ " " ++ intensifier.gloss ++ " " ++
      predicateEnglish predicate
  roles :=
    [⟨marker.surface, "tense marker", tense.description⟩, .ofCard intensifier "intensifier",
      .ofCard predicate predicate.category.name, .ofCard pronoun "pronoun"]
  praise := praise tense

/-- The checks on the cards after the marker of a sentence of five cards. -/
def locatedChecks (verb pronoun locative place : Card) : List Check := [
  { gate := .verb
    passes := verb.isA .verb
    message := "Second card must be a verb for 5-card sentences"
    hint := "Kei te + verb + pronoun + i/ki + location/object"
    explanation := "Only verbs can take locations or objects, not adjectives" },
  { gate := .pronoun
    passes := pronoun.isA .pronoun
    message := "Third card must be a pronoun"
    hint := "Kei te + verb + WHO + i/ki + location"
    explanation := none },
  { gate := .locative
    passes := locative.isA .locative
    message := "Fourth card must be i or ki"
    hint := "Use \"i\" for location (at/in) or \"ki\" for direction (to/towards)"
    explanation := "i = at/in (where you are), ki = to/towards (where you're going)" },
  { gate := .complement
    passes := isComplement place
    message := "Fifth card must be a location or object (noun)"
    hint := "Kei te + verb + pronoun + i/ki + PLACE/THING"
    explanation := none }]

def locatedReading (tense : Tense) (marker verb pronoun locative place : Card) : Reading where
  translation :=
    (Subject.ofCard pronoun).clause tense ++ " " ++ English.gerund verb.gloss ++
      (if locative.surface = "i" then " in/at " else " to ") ++ place.gloss
  roles :=
    [⟨marker.surface, "tense marker", tense.description⟩, .ofCard verb "verb",
      .ofCard pronoun "pronoun", .ofCard locative "particle",
      .ofCard place place.category.name]
  praise := praise tense

/-- Goes on with the tense that the first card marks. -/
def withTense (marker : Card) (continuation : Tense → Verdict) : Verdict :=
  match Tense.ofMarker? marker.surface with
  | some tense => continuation tense
  | none => leaderCheck.rejection

def verdict (cards : List Card) (target : Option Target) : Verdict :=
  match cards with
  | [marker, predicate, pronoun] =>
      withTense marker fun tense =>
        Check.judge (shortChecks predicate pronoun)
          (shortReading tense marker predicate pronoun) cards target
  | [marker, intensifier, predicate, pronoun] =>
      withTense marker fun tense =>
        Check.judge (intensifiedChecks intensifier predicate pronoun)
          (intensifiedReading tense marker intensifier predicate pronoun) cards target
  | [marker, verb, pronoun, locative, place] =>
      withTense marker fun tense =>
        Check.judge (locatedChecks verb pronoun locative place)
          (locatedReading tense marker verb pronoun locative place) cards target
  | _ => lengthCheck.rejection

/-- Whether the sentence begins like this. -/
def opens : List Card → Bool
  | marker :: _ => (Tense.ofMarker? marker.surface).isSome
  | [] => false

/-- What to do next. -/
def hint (cards : List Card) : Option String :=
  let valid := (verdict cards none).valid
  match cards with
  | [] => some "Start with \"Kei te\" for present tense"
  | [_] =>
      if opens cards then some "Good! Now add an adjective (state) or verb (action)" else none
  | [_, second] =>
      if opens cards then
        some (if isPredicate second then "Great! Now add a pronoun (who?)"
          else if second.isA .intensifier then
            "Good intensifier! Now add adjective/verb, then pronoun"
          else "After Kei te, add an adjective (pai, harikoa) or verb (haere, kai)")
      else none
  | [_, _, _] =>
      some (if valid then "Perfect 3-card sentence! (Optional: add intensifier or location)"
        else "Check pattern: Kei te + adjective/verb + pronoun")
  | [_, _, _, _] =>
      some (if valid then "Great sentence with intensifier!"
        else "Check pattern: Kei te + intensifier + adjective/verb + pronoun")
  | [_, _, _, _, _] =>
      some (if valid then "Excellent sentence with location!"
        else "Check pattern: Kei te + verb + pronoun + i/ki + location")
  | _ => some "Kei te sentences need 3-5 cards maximum"

end SentenceCards.Predication
