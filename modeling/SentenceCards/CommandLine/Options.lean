import SentenceCards.Pattern
import SentenceCards.Text.Numeral

/-!
# Options of the command line

An argument is a switch, or it is an option and the next argument is its value, whatever
that looks like.  Of an option that is given twice the last value counts.
-/

namespace SentenceCards.CommandLine

/-- Options without a value. -/
inductive Switch where
  | help | version | trace
  /-- Traces in JSON. -/
  | traceJson
  /-- Translates plural nouns in identifying sentences by plurals. -/
  | pluralize
  deriving DecidableEq, Inhabited

/-- Options with a value. -/
inductive Setting where
  | lesson | free | seed | decoys | load | batch
  deriving DecidableEq, Inhabited

/-- The switch that an argument is. -/
def Switch.ofFlag? : String → Option Switch
  | "-h" | "--help" => some .help
  | "-V" | "--version" => some .version
  | "--trace" => some .trace
  | "--trace-json" => some .traceJson
  | "--pluralize-ko" => some .pluralize
  | _ => none

/-- The option that an argument is. -/
def Setting.ofFlag? : String → Option Setting
  | "-l" | "--lesson" => some .lesson
  | "--free" => some .free
  | "--seed" => some .seed
  | "--decoys" => some .decoys
  | "--load" => some .load
  | "-b" | "--batch" => some .batch
  | _ => none

/-- Why arguments cannot be understood. -/
inductive Misuse where
  | missingValue (flag : String)
  | badSeed (text : String)
  | badDecoys (text : String)
  | badPattern (failure : Failure)
  | unknownOption (argument : String)
  | lessonAndFree
  deriving DecidableEq, Inhabited

/-- The wording of a misuse. -/
def Misuse.message : Misuse → String
  | .missingValue flag => s!"{flag} requires a value"
  | .badSeed text => s!"invalid --seed value: {text}"
  | .badDecoys text => s!"invalid --decoys value: {text}"
  | .badPattern failure => failure.message
  | .unknownOption argument => s!"unknown option: {argument}"
  | .lessonAndFree => "--lesson and --free cannot be combined"

structure Options where
  help : Bool
  version : Bool
  trace : Bool
  traceJson : Bool
  pluralize : Bool
  lesson : Option String
  free : Option Pattern
  seed : Option UInt64
  decoys : Option Nat
  load : Option String
  batch : Option String
  deriving DecidableEq, Inhabited

namespace Options

/-- No option is given. -/
def blank : Options :=
  { help := false, version := false, trace := false, traceJson := false, pluralize := false
    lesson := none, free := none, seed := none, decoys := none, load := none, batch := none }

/-- Turns a switch on.  A trace in JSON is a trace. -/
def turnOn (options : Options) : Switch → Options
  | .help => { options with help := true }
  | .version => { options with version := true }
  | .trace => { options with trace := true }
  | .traceJson => { options with trace := true, traceJson := true }
  | .pluralize => { options with pluralize := true }

/-- Gives an option its value. -/
def give (options : Options) (setting : Setting) (value : String) : Except Misuse Options :=
  match setting with
  | .lesson => .ok { options with lesson := some value }
  | .free =>
      match Pattern.ofName value with
      | .ok pattern => .ok { options with free := some pattern }
      | .error failure => .error (.badPattern failure)
  | .seed =>
      match Text.readWord64? value with
      | some n => .ok { options with seed := some n.toUInt64 }
      | none => .error (.badSeed value)
  | .decoys =>
      match Text.readWord64? value with
      | some n => .ok { options with decoys := some n }
      | none => .error (.badDecoys value)
  | .load => .ok { options with load := some value }
  | .batch => .ok { options with batch := some value }

/-- Reads arguments from left to right. -/
def readAll (options : Options) : (arguments : List String) → Except Misuse Options
  | [] => .ok options
  | flag :: rest =>
      match Switch.ofFlag? flag with
      | some switch => readAll (options.turnOn switch) rest
      | none =>
          match Setting.ofFlag? flag, rest with
          | none, _ => .error (.unknownOption flag)
          | some _, [] => .error (.missingValue flag)
          | some setting, value :: rest => do readAll (← options.give setting value) rest

/-- The options that arguments stand for. -/
def read (arguments : List String) : Except Misuse Options := do
  let options ← readAll blank arguments
  if options.lesson.isSome ∧ options.free.isSome then throw .lessonAndFree
  return options

end Options

end SentenceCards.CommandLine
