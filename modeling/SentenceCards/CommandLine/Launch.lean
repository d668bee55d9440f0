import SentenceCards.CommandLine.Options
import SentenceCards.Prompt.Dialogue
import SentenceCards.Prompt.Script

/-!
# Launching

What the program does with its arguments before it reads a line: it may be over, or it
goes on with a dialogue.
-/

namespace SentenceCards.CommandLine

def bold (text : String) : String := View.bold text

/-- What is shown for `--help`. -/
def helpLines : List String := [
  bold "tereo" ++ " - Sentence-building practice for te reo Māori",
  "",
  bold "USAGE:",
  "    tereo [OPTIONS]",
  "",
  bold "OPTIONS:",
  "    -h, --help           Print help information",
  "    -V, --version        Print version information",
  "    -l, --lesson ID      Start at a lesson (e.g. lesson_1_1)",
  "    --free PATTERN       Start a free build (ko, he, equative, kei_te)",
  "    --seed N             Seed for dealing hands (default 0)",
  "    --decoys N           Decoy cards per hand (default 2)",
  "    --pluralize-ko       Render plural Ko nouns in English plural",
  "    --load PATH          Load an attempt log before starting",
  "    -b, --batch FILE     Run REPL commands from FILE and exit",
  "",
  bold "DEBUG OPTIONS:",
  "    --trace              Trace validation to stderr",
  "    --trace-json         Trace validation to stderr as JSON lines",
  "",
  bold "EXAMPLES:",
  "    tereo                          Start interactive REPL",
  "    tereo -l lesson_2_1            Start at the Kei te lesson",
  "    tereo --free he --decoys 0     Free-build He sentences",
  "    tereo --trace -b drills.txt    Run a drill script with tracing",
  "",
  bold "REPL COMMANDS:",
  "    :lessons, :lesson ID, :free PATTERN, :next",
  "    :hand, :place N SLOT, :take SLOT, :reset, :hint, :submit",
  "    :say SENTENCE (or type a sentence), :trace on|off|show|clear|json|human",
  "    :save PATH, :load PATH, :help, :quit",
  "    Ctrl+D               Exit REPL",
  "    Ctrl+C               Cancel current input"]

/-- What is shown for `--version`. -/
def versionLine : String := "tereo 0.1.0"

/-- What is said at the beginning of a trace. -/
def traceLines (json : Bool) : List String := [
  inStyle Colour.yellow.code "Debug flags enabled:",
  "  - Validation tracing to stderr (" ++ (if json then "json" else "human") ++ ")",
  ""]

/-- The plan of the session that options ask for. -/
def Options.plan (options : Options) : SessionPlan where
  seed := options.seed.getD SessionPlan.usual.seed
  decoys := options.decoys.getD SessionPlan.usual.decoys
  trace :=
    if options.trace then
      { Trace.Settings.usual with enabled := true, echoes := true, json := options.traceJson }
    else .usual
  style := if options.pluralize then .pluralize else .annotate

/-- What launching comes to. -/
inductive Launch where
  /-- The program is over. -/
  | over (printed : Printed) (succeeded : Bool)
  /-- The program goes on with a dialogue. -/
  | dialogue (printed : Printed) (session : Session)

/-- The end after a failure. -/
def Launch.failed (printed : Printed) (message : String) : Launch :=
  .over (printed ++ .ofError message) false

/-- The session that options ask for, before anything is started. -/
def Options.session (options : Options) : Session :=
  .start .standard .standard options.plan

/-- The session with the saved attempt log, if one was named. -/
def withSavedLog (session : Session) : (path : Option String) → Exchange (Except Failure Session)
  | none => return .ok session
  | some path =>
      (AttemptLog.load path).bind fun loaded => .done (loaded.map session.withLog)

/-- The session with the lesson or the free build that options ask for. -/
def Options.started (options : Options) (session : Session) : Except Failure Session := do
  let session ← match options.lesson with
    | some lesson =>
        let (challenge, later) := (Session.startLesson lesson).on session
        challenge.map fun _ => later
    | none => .ok session
  match options.free with
  | some pattern => return session.startFreeBuild pattern
  | none => return session

/-- Runs the script in a file, and then the program is over. -/
def launchScript (printed : Printed) (path : String) (session : Session) : Exchange Launch :=
  (Script.run path session).bind fun run =>
    let (trace, _) := Dialogue.collectTrace run.session
    let printed := printed ++ ⟨run.shown, []⟩ ++ trace
    match run.failure with
    | none => .done (.over printed true)
    | some failure => .done (.failed printed failure.message)

/-- What is shown before the first line is read: the challenge that was asked for, or the
banner. -/
def Options.opening (options : Options) (session : Session) : List String :=
  if options.lesson.isSome || options.free.isSome then [View.challenge session]
  else Dialogue.banner

/-- Launches a session. -/
def Options.launch (options : Options) : Exchange Launch :=
  let printed : Printed := ⟨[], if options.trace then traceLines options.traceJson else []⟩
  (withSavedLog options.session options.load).bind fun loaded =>
    match loaded.bind options.started with
    | .error failure => .done (.failed printed failure.message)
    | .ok session =>
        match options.batch with
        | some path => launchScript printed path session
        | none => .done (.dialogue (printed ++ ⟨options.opening session, []⟩) session)

/-- Launches the program. -/
def launch (arguments : List String) : Exchange Launch :=
  match Options.read arguments with
  | .error misuse => .done (.failed .nothing misuse.message)
  | .ok options =>
      if options.help then .done (.over ⟨helpLines, []⟩ true)
      else if options.version then .done (.over ⟨[versionLine], []⟩ true)
      else options.launch

end SentenceCards.CommandLine
