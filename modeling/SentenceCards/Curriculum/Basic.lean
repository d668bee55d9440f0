import SentenceCards.Challenge.Basic

/-!
# Curricula

Modules of lessons, and the challenges of all lessons in one list.  A challenge
belongs to a lesson by the beginning of its id.
-/

namespace SentenceCards

/-- How a lesson is presented. -/
inductive Lesson.Kind where
  /-- Introduces a pattern. -/
  | tutorial
  /-- Drills a known pattern. -/
  | practice
  /-- Combines patterns. -/
  | challenge
  deriving DecidableEq, Inhabited

def Lesson.Kind.name : Lesson.Kind → String
  | .tutorial => "tutorial"
  | .practice => "practice"
  | .challenge => "challenge"

/-- The point of grammar that a lesson teaches. -/
structure GrammarPoint where
  /-- The shape of the sentences, in one line. -/
  summary : String
  /-- The parts of the sentence in order. -/
  parts : List String
  explanation : String
  tips : List String
  deriving DecidableEq, Inhabited

structure Lesson where
  id : String
  moduleId : String
  title : String
  description : String
  /-- The position within the module. -/
  order : Nat
  kind : Lesson.Kind
  grammar : GrammarPoint
  /-- The ids of the words that are taught here first. -/
  vocabulary : List String
  deriving DecidableEq, Inhabited

structure CourseModule where
  id : String
  title : String
  description : String
  /-- The position within the curriculum. -/
  order : Nat
  lessons : List Lesson
  deriving DecidableEq, Inhabited

/-- The lessons of a module by their position; lessons in the same position stay as listed. -/
def CourseModule.inOrder (course : CourseModule) : List Lesson :=
  course.lessons.mergeSort fun first second => decide (first.order ≤ second.order)

structure Curriculum where
  modules : List CourseModule
  challenges : List Challenge
  deriving Inhabited

/-- The text after all copies of `head` at its beginning. -/
def dropCopies (head text : List Char) : List Char :=
  if _found : head ≠ [] ∧ head.isPrefixOf text then
    dropCopies head (text.drop head.length)
  else text
  termination_by text.length
  decreasing_by
    have bound := (List.isPrefixOf_iff_prefix.mp _found.2).length_le
    have positive := List.length_pos_iff.mpr _found.1
    simp
    omega

/-- A lesson id without `lesson_` in front. -/
def lessonNumber (lessonId : String) : String :=
  String.ofList (dropCopies "lesson_".toList lessonId.toList)

namespace Curriculum

/-- All lessons, module by module. -/
def lessons (curriculum : Curriculum) : List Lesson :=
  curriculum.modules.flatMap CourseModule.lessons

def module? (curriculum : Curriculum) (id : String) : Option CourseModule :=
  curriculum.modules.find? (·.id == id)

/-- The first lesson with the given id in any module. -/
def lesson? (curriculum : Curriculum) (id : String) : Option Lesson :=
  curriculum.lessons.find? (·.id == id)

theorem id_of_lesson? {curriculum : Curriculum} {id : String} {lesson : Lesson}
    (found : curriculum.lesson? id = some lesson) : lesson.id = id := by
  have matching := List.find?_some found
  exact beq_iff_eq.mp matching

def challenge? (curriculum : Curriculum) (id : String) : Option Challenge :=
  curriculum.challenges.find? (·.id == id)

/-- The challenges of a lesson: those whose id continues `c_` and the number of the lesson. -/
def challengesOf (curriculum : Curriculum) (lessonId : String) : List Challenge :=
  let beginning := ("c_" ++ lessonNumber lessonId ++ "_").toList
  curriculum.challenges.filter fun challenge => beginning.isPrefixOf challenge.id.toList

/-- The lessons in the module of a lesson in order, and the index of the lesson. -/
def position? (curriculum : Curriculum) (lessonId : String) : Option (List Lesson × Nat) := do
  let lesson ← curriculum.lesson? lessonId
  let course ← curriculum.module? lesson.moduleId
  let ordered := course.inOrder
  let index ← ordered.findIdx? (·.id == lessonId)
  return (ordered, index)

/-- The lesson after the given one in its module. -/
def nextLesson? (curriculum : Curriculum) (lessonId : String) : Option Lesson := do
  let (ordered, index) ← curriculum.position? lessonId
  ordered[index + 1]?

/-- The lesson before the given one in its module. -/
def previousLesson? (curriculum : Curriculum) (lessonId : String) : Option Lesson := do
  let (ordered, index) ← curriculum.position? lessonId
  if index = 0 then none else ordered[index - 1]?

end Curriculum

end SentenceCards
