import SentenceCards.Attempts.Log
import SentenceCards.Challenge.Basic
import SentenceCards.Json.Value
import SentenceCards.Slots

/-!
# Records in JSON

The JSON forms of words, cards, slots, challenges and attempt logs.  A record is an object;
members that are no fields do not matter, and a field that may be absent may also be null.  A
record is also read from an array of its values in the order of the fields.
-/

namespace SentenceCards

namespace Json

/-- The values of the named fields, null where one is missing. -/
def fields? (names : List String) (json : Json) : Option (List Json) :=
  match json with
  | .object _ => some (names.map fun name => (json.member? name).getD .null)
  | .array items => if items.length = names.length then some items else none
  | _ => none

def text? : Json → Option String
  | .string text => some text
  | _ => none

def bool? : Json → Option Bool
  | .bool value => some value
  | _ => none

/-- A natural number below the limit. -/
def natBelow? (limit : Nat) : Json → Option Nat
  | .integer (.ofNat n) => if n < limit then some n else none
  | _ => none

/-- The items of an array, each read by `read?`. -/
def list? {α : Type} (read? : Json → Option α) : Json → Option (List α)
  | .array items => items.mapM read?
  | _ => none

/-- Null, or a value read by `read?`. -/
def orNull? {α : Type} (read? : Json → Option α) : Json → Option (Option α)
  | .null => some none
  | json => (read? json).map some

/-- The name of an alternative, which may also be the key of an object with the value null. -/
def name? : Json → Option String
  | .string name => some name
  | .object [(name, .null)] => some name
  | _ => none

end Json

namespace Category

def toJson (category : Category) : Json := .string category.name

def ofJson? (json : Json) : Option Category := json.name?.bind ofName?

end Category

namespace Colour

def toJson (colour : Colour) : Json := .string colour.name

def ofJson? (json : Json) : Option Colour := json.name?.bind ofName?

end Colour

namespace Pattern

def toJson (pattern : Pattern) : Json := .string pattern.name

def ofJson? (json : Json) : Option Pattern := json.name?.bind ofName?

end Pattern

namespace Word

def fieldNames : List String :=
  ["id", "maori", "english", "word_type", "color", "module", "pronunciation", "usage",
    "cultural_note"]

def toJson (word : Word) : Json :=
  .object [("id", .string word.id), ("maori", .string word.surface),
    ("english", .string word.gloss), ("word_type", word.category.toJson),
    ("color", word.colour.toJson), ("module", .nat word.unit.toNat),
    ("pronunciation", .string word.pronunciation), ("usage", .string? word.usage),
    ("cultural_note", .string? word.culture)]

def ofJson? (json : Json) : Option Word :=
  match json.fields? fieldNames with
  | some [id, surface, gloss, category, colour, unit, pronunciation, usage, culture] =>
      return {
        id := ← id.text?
        surface := ← surface.text?
        gloss := ← gloss.text?
        category := ← Category.ofJson? category
        colour := ← Colour.ofJson? colour
        unit := (← unit.natBelow? 256).toUInt8
        pronunciation := ← pronunciation.text?
        usage := ← usage.orNull? Json.text?
        culture := ← culture.orNull? Json.text? }
  | _ => none

end Word

namespace Marks

def fieldNames : List String := ["variation", "placeholder"]

def toJson (marks : Marks) : Json :=
  .object [("variation", .bool marks.decoy), ("placeholder", .bool marks.standIn)]

def ofJson? (json : Json) : Option Marks :=
  match json.fields? fieldNames with
  | some [decoy, standIn] => return ⟨← decoy.bool?, ← standIn.bool?⟩
  | _ => none

end Marks

namespace Card

def fieldNames : List String := ["id", "maori", "english", "word_type", "color", "extra"]

def toJson (card : Card) : Json :=
  .object [("id", .string card.id), ("maori", .string card.surface),
    ("english", .string card.gloss), ("word_type", card.category.toJson),
    ("color", card.colour.toJson), ("extra", .optional Marks.toJson card.marks)]

def ofJson? (json : Json) : Option Card :=
  match json.fields? fieldNames with
  | some [id, surface, gloss, category, colour, marks] =>
      return {
        id := ← id.text?
        surface := ← surface.text?
        gloss := ← gloss.text?
        category := ← Category.ofJson? category
        colour := ← Colour.ofJson? colour
        marks := ← marks.orNull? Marks.ofJson? }
  | _ => none

end Card

namespace Slots

def toJson (slots : Slots) : Json :=
  .object [("slots", .array (slots.cells.map (.optional Card.toJson)))]

def ofJson? (json : Json) : Option Slots :=
  match json.fields? ["slots"] with
  | some [cells] => return ⟨← cells.list? (·.orNull? Card.ofJson?)⟩
  | _ => none

end Slots

namespace Target

def fieldNames : List String := ["surface", "gloss"]

def toJson (target : Target) : Json :=
  .object [("surface", .string target.surface), ("gloss", .string target.gloss)]

def ofJson? (json : Json) : Option Target :=
  match json.fields? fieldNames with
  | some [surface, gloss] => return ⟨← surface.text?, ← gloss.text?⟩
  | _ => none

end Target

namespace Place

def toJson : Place → Json
  | .literal surface => .object [("Literal", .string surface)]
  | .word category => .object [("Word", category.toJson)]

def ofJson? : Json → Option Place
  | .object [("Literal", surface)] => return .literal (← surface.text?)
  | .object [("Word", category)] => return .word (← Category.ofJson? category)
  | _ => none

end Place

namespace Challenge

def fieldNames : List String :=
  ["id", "pattern", "instruction", "target", "slots", "required_cards", "hints"]

def toJson (challenge : Challenge) : Json :=
  .object [("id", .string challenge.id), ("pattern", challenge.pattern.toJson),
    ("instruction", .string challenge.instruction),
    ("target", .optional Target.toJson challenge.target),
    ("slots", .array (challenge.places.map Place.toJson)),
    ("required_cards", .strings challenge.required), ("hints", .strings challenge.hints)]

def ofJson? (json : Json) : Option Challenge :=
  match json.fields? fieldNames with
  | some [id, pattern, instruction, target, places, required, hints] =>
      return {
        id := ← id.text?
        pattern := ← Pattern.ofJson? pattern
        instruction := ← instruction.text?
        target := ← target.orNull? Target.ofJson?
        places := ← places.list? Place.ofJson?
        required := ← required.list? Json.text?
        hints := ← hints.list? Json.text? }
  | _ => none

end Challenge

namespace BuiltWord

def toJson (built : BuiltWord) : Json :=
  .object [("word", .string built.word), ("word_type", .string built.category)]

def ofJson? (json : Json) : Option BuiltWord :=
  match json.fields? ["word", "word_type"] with
  | some [word, category] => return ⟨← word.text?, ← category.text?⟩
  | _ => none

end BuiltWord

namespace Attempt

def toJson (attempt : Attempt) : Json :=
  .object [("challenge_id", .string attempt.challengeId),
    ("built", .array (attempt.built.map BuiltWord.toJson)),
    ("is_correct", .bool attempt.correct)]

def ofJson? (json : Json) : Option Attempt :=
  match json.fields? ["challenge_id", "built", "is_correct"] with
  | some [challengeId, built, correct] =>
      return ⟨← challengeId.text?, ← built.list? BuiltWord.ofJson?, ← correct.bool?⟩
  | _ => none

end Attempt

namespace LessonStatus

def toJson (status : LessonStatus) : Json := .string status.name

def ofJson? (json : Json) : Option LessonStatus := json.name?.bind ofName?

end LessonStatus

namespace LessonProgress

def toJson (row : LessonProgress) : Json :=
  .object [("lesson_id", .string row.lessonId), ("module_id", .string row.moduleId),
    ("status", row.status.toJson), ("score", .nat row.score.toNat)]

def ofJson? (json : Json) : Option LessonProgress :=
  match json.fields? ["lesson_id", "module_id", "status", "score"] with
  | some [lessonId, moduleId, status, score] =>
      return ⟨← lessonId.text?, ← moduleId.text?, ← LessonStatus.ofJson? status,
        (← score.natBelow? UInt32.size).toUInt32⟩
  | _ => none

end LessonProgress

namespace AttemptLog

def toJson (log : AttemptLog) : Json :=
  .object [("attempts", .array (log.attempts.map Attempt.toJson)),
    ("progress", .array (log.progress.map LessonProgress.toJson))]

def ofJson? (json : Json) : Option AttemptLog :=
  match json.fields? ["attempts", "progress"] with
  | some [attempts, progress] =>
      return ⟨← attempts.list? Attempt.ofJson?, ← progress.list? LessonProgress.ofJson?⟩
  | _ => none

end AttemptLog

end SentenceCards
