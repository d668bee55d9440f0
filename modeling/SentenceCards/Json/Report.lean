import SentenceCards.Catalog.Reading
import SentenceCards.Curriculum.Basic
import SentenceCards.Grammar.Verdict
import SentenceCards.Json.Stored

/-!
# Reports in JSON

Verdicts, lessons and modules as JSON objects, and outlines of lessons and modules.
-/

namespace SentenceCards

open Json (nat strings string?)

/-- A verdict with its feedback, and with word, role and meaning for each role. -/
def Verdict.toJson (verdict : Verdict) : Json :=
  let feedback := verdict.feedback
  .object [("valid", .bool verdict.valid), ("correct", .bool verdict.correct),
    ("kind", .string feedback.tone.name), ("message", .string feedback.message),
    ("hint", string? feedback.hint), ("explanation", string? feedback.explanation),
    ("naturalness", if feedback.natural then .string "natural" else .null),
    ("translation", .string verdict.translation),
    ("breakdown",
      .array (verdict.roles.map fun role => strings [role.word, role.role, role.meaning])),
    ("gate", string? (verdict.gate?.map Gate.name))]

def Lesson.toJson (lesson : Lesson) : Json :=
  let grammar := lesson.grammar
  .object [("id", .string lesson.id), ("module_id", .string lesson.moduleId),
    ("title", .string lesson.title), ("description", .string lesson.description),
    ("order", nat lesson.order), ("kind", .string lesson.kind.name),
    ("structure", .string grammar.summary), ("pattern", strings grammar.parts),
    ("explanation", .string grammar.explanation), ("tips", strings grammar.tips),
    ("vocabulary", strings lesson.vocabulary)]

/-- A module with the ids of its lessons. -/
def CourseModule.toJson (course : CourseModule) : Json :=
  .object [("id", .string course.id), ("title", .string course.title),
    ("description", .string course.description), ("order", nat course.order),
    ("lessons", strings (course.lessons.map Lesson.id))]

/-- A title, which may be missing. -/
def titleIn? (json : Json) : Option String :=
  match json.member? "title" with
  | none | some .null => some ""
  | some title => title.text?

/-- A lesson of which only the place in a curriculum is given. -/
def Lesson.ofOutline? (json : Json) : Option Lesson := do
  return {
    id := ← (← json.member? "id").text?
    moduleId := ← (← json.member? "module_id").text?
    title := ← titleIn? json
    description := ""
    order := ← (← json.member? "order").natBelow? UInt64.size
    kind := .practice
    grammar := ⟨"", [], "", []⟩
    vocabulary := [] }

/-- A module of which only the lessons are given. -/
def CourseModule.ofOutline? (json : Json) : Option CourseModule := do
  return {
    id := ← (← json.member? "id").text?
    title := ← titleIn? json
    description := ""
    order := 0
    lessons := ← (← json.member? "lessons").list? Lesson.ofOutline? }

end SentenceCards
