import SentenceCards.Session.Operation

/-!
# What the learner sees

The active challenge with the sentence and the hand, the list of lessons, and what came
of checking a sentence.
-/

namespace SentenceCards.View

/-- The terminal code for bold text. -/
def boldCode : String := "\x1b[1m"

/-- The terminal code for faint text. -/
def faintCode : String := "\x1b[2m"

def bold (text : String) : String := inStyle boldCode text

def faint (text : String) : String := inStyle faintCode text

/-- The surface of a card in its colour. -/
def paintedCard (card : Card) : String := inStyle card.colour.code card.surface

/-- The line that says what is asked for. -/
def titleLine (session : Session) (challenge : Challenge) : String :=
  if challenge.isFree then bold "Free build" ++ s!" ({challenge.pattern.name})"
  else
    bold s!"Challenge {session.index + 1}/{session.challenges.length}" ++
      s!" ({challenge.pattern.name}) {challenge.instruction}"

/-- A slot: its card, or a line to be filled. -/
def slotText : Option Card → String
  | some card => paintedCard card
  | none => "_"

/-- The line with the sentence so far. -/
def sentenceLine (slots : Slots) : String :=
  "Sentence: [ " ++ " | ".intercalate (slots.cells.map slotText) ++ " ]"

/-- The line of the card at a position of the hand. -/
def handLine (card : Card) (position : Nat) : String :=
  "  " ++ Text.padStart 2 (toString position) ++ "  " ++ paintedCard card ++ "  " ++
    faint card.gloss

/-- The active challenge, the sentence so far, and the hand. -/
def challenge (session : Session) : String :=
  match session.challenge? with
  | none => "No active challenge. Try :lessons or :free PATTERN"
  | some challenge =>
      "\n".intercalate
        ([titleLine session challenge, sentenceLine session.slots, "Hand:"] ++
          session.hand.zipIdx.map fun (card, position) => handLine card position)

/-- How the status of a lesson reads. -/
def statusText : LessonStatus → String
  | .inProgress => "in progress"
  | .completed => "completed"

/-- The line of a lesson, with its progress if there is any. -/
def lessonLine (log : AttemptLog) (lesson : Lesson) : String :=
  let progress := match log.progressIn? lesson.id with
    | some row => s!" [{statusText row.status} {row.score.toNat}]"
    | none => ""
  "  " ++ Text.padEnd 12 lesson.id ++ " " ++ lesson.title ++ progress

/-- The lines of a module and its lessons. -/
def moduleLines (log : AttemptLog) (course : CourseModule) : List String :=
  (bold course.id ++ " " ++ course.title) :: course.lessons.map (lessonLine log)

/-- All modules and lessons, without white space at the end. -/
def lessons (session : Session) : String :=
  let lines := session.curriculum.modules.flatMap (moduleLines session.log)
  String.ofList (Text.dropEnd Text.isBlank ("\n".intercalate lines).toList)

/-- The terminal code of a tone. -/
def toneCode : Tone → String
  | .success => Colour.green.code
  | .warning => Colour.yellow.code
  | .error => Colour.red.code

/-- The line of a word with its role. -/
def roleLine (role : Role) : String :=
  "    " ++ Text.padEnd 16 role.word ++ " " ++ faint (Text.padEnd 20 role.role) ++ " " ++
    role.meaning

/-- The lines of a verdict: what is said, the translation, and the roles of the words. -/
def verdictLines (verdict : Verdict) : List String :=
  let feedback := verdict.feedback
  [inStyle (toneCode feedback.tone) feedback.message] ++
  (if verdict.translation.isEmpty then [] else ["  Translation: " ++ verdict.translation]) ++
  (feedback.hint.map ("  Hint: " ++ ·)).toList ++
  (feedback.explanation.map ("  Why: " ++ ·)).toList ++
  verdict.roles.map roleLine

def verdict (verdict : Verdict) : String := "\n".intercalate (verdictLines verdict)

/-- What came of submitting a sentence, in the session afterwards. -/
def submission (submission : Submission) (session : Session) : String :=
  let points := submission.points.toNat
  let earned := s!"+{points} points (score {session.score.toNat})"
  let further :=
    if submission.lessonComplete then ["Lesson complete!"]
    else if submission.verdict.correct && session.lessonId.isSome then
      ["Type :next for the next challenge."]
    else []
  "\n".intercalate
    (verdictLines submission.verdict ++ (if 0 < points then [earned] else []) ++ further)

/-- What is said after the last challenge. -/
def noMore (session : Session) : String :=
  let following := match session.lessonId.bind session.curriculum.nextLesson? with
    | some lesson => s!" Next up: :lesson {lesson.id} ({lesson.title})"
    | none => ""
  "No more challenges here." ++ following

/-- How the answer to an operation reads, in the session afterwards. -/
def answer (session : Session) : Answer → String
  | .done | .challenge (some _) => challenge session
  | .challenge none => noMore session
  | .card card => s!"Returned {card.surface} to the hand.\n" ++ challenge session
  | .hint (some hint) => "Hint: " ++ hint
  | .hint none => "No hint for this arrangement."
  | .submission submitted => submission submitted session
  | .said pattern said => s!"[{pattern.name}] " ++ verdict said

/-- How an order to the trace is confirmed. -/
def obeyed : Trace.Order → String
  | .switch on => if on then "Tracing on." else "Tracing off."
  | .clear => "Trace cleared."
  | .format json => if json then "Trace format: json." else "Trace format: human."

/-- All commands. -/
def help : String :=
  "\n".intercalate [
    bold "Lessons",
    "  :lessons              List modules and lessons with progress",
    "  :lesson ID            Start a lesson (e.g. :lesson lesson_1_1)",
    "  :free PATTERN         Free build: ko, he, equative or kei_te",
    "  :next                 Move to the next challenge",
    "",
    bold "Building",
    "  :hand                 Show the challenge, sentence and hand",
    "  :place N SLOT         Put hand card N into slot SLOT",
    "  :take SLOT            Return a slot's card to the hand",
    "  :reset                Return every placed card",
    "  :hint                 Guidance for the sentence so far",
    "  :submit               Check the sentence",
    "",
    bold "Other",
    "  :say SENTENCE         Check a typed sentence (or just type it)",
    "  :trace on|off|show|clear",
    "                        Validation tracing",
    "  :trace json|human     Trace display format",
    "  :save PATH            Save the attempt log",
    "  :load PATH            Load an attempt log",
    "  :quit                 Exit"]

end SentenceCards.View
