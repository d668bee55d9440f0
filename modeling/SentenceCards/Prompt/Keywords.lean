import SentenceCards.Catalog.Basic
import SentenceCards.Curriculum.Standard
import SentenceCards.Prompt.Command

/-!
# Keywords

What can be suggested to the learner while a line is typed.
-/

namespace SentenceCards

/-- The commands, the patterns, the standard lessons and the surfaces of the standard words. -/
def keywords : List String :=
  Command.names ++ Pattern.all.map Pattern.name ++
    Curriculum.standard.lessons.map Lesson.id ++ Catalog.standard.words.map Word.surface

end SentenceCards
