import SentenceCards.CommandLine.Options
import SentenceCards.Proofs.Text.Numeral

/-!
# Arguments as options

Arguments split, from left to right, into switches and into options with the arguments after them as
their values.  Reading arguments that split is using the options in turn
(`Options.readAll_append_of_splits`), and no others are read (`Options.exists_splits_of_readAll`).
-/

namespace SentenceCards.CommandLine

/-- How a switch is written. -/
def Switch.flags : Switch → List String
  | .help => ["-h", "--help"]
  | .version => ["-V", "--version"]
  | .trace => ["--trace"]
  | .traceJson => ["--trace-json"]
  | .pluralize => ["--pluralize-ko"]

/-- How an option with a value is written. -/
def Setting.flags : Setting → List String
  | .lesson => ["-l", "--lesson"]
  | .free => ["--free"]
  | .seed => ["--seed"]
  | .decoys => ["--decoys"]
  | .load => ["--load"]
  | .batch => ["-b", "--batch"]

theorem Switch.ofFlag?_eq_some_iff {flag : String} {switch : Switch} :
    Switch.ofFlag? flag = some switch ↔ flag ∈ switch.flags := by
  unfold Switch.ofFlag?
  split <;> cases switch <;> simp_all [Switch.flags]

theorem Setting.ofFlag?_eq_some_iff {flag : String} {setting : Setting} :
    Setting.ofFlag? flag = some setting ↔ flag ∈ setting.flags := by
  unfold Setting.ofFlag?
  split <;> cases setting <;> simp_all [Setting.flags]

/-- No option with a value is written as a switch. -/
theorem Switch.ofFlag?_of_mem_flags {flag : String} {setting : Setting}
    (written : flag ∈ setting.flags) : Switch.ofFlag? flag = none := by
  have apart : ∀ setting : Setting, ∀ flag ∈ setting.flags, Switch.ofFlag? flag = none := by
    intro setting
    cases setting <;> decide
  exact apart setting flag written

/-- One use of an option. -/
inductive Use where
  | on (switch : Switch)
  | set (setting : Setting) (value : String)
  deriving DecidableEq, Inhabited

/-- From left to right, the arguments are switches, and options each followed by its value. -/
inductive Splits : List String → List Use → Prop where
  | nil : Splits [] []
  | on {flag : String} {switch : Switch} {rest : List String} {uses : List Use} :
      flag ∈ switch.flags → Splits rest uses → Splits (flag :: rest) (.on switch :: uses)
  | set {flag value : String} {setting : Setting} {rest : List String} {uses : List Use} :
      flag ∈ setting.flags → Splits rest uses →
        Splits (flag :: value :: rest) (.set setting value :: uses)

/-- The texts that an option may have for its value. -/
def Setting.Admits : Setting → String → Prop
  | .lesson, _ | .load, _ | .batch, _ => True
  | .free, value => ∃ pattern : Pattern, pattern.name = value
  | .seed, value | .decoys, value => ∃ n < UInt64.size, Text.Denotes value.toList n

def Use.Admitted : Use → Prop
  | .on _ => True
  | .set setting value => setting.Admits value

theorem bind_eq_ok_iff {α β : Type} {first : Except Misuse α} {next : α → Except Misuse β}
    {result : β} :
    first >>= next = .ok result ↔ ∃ middle, first = .ok middle ∧ next middle = .ok result := by
  cases first with
  | error misuse => exact ⟨fun bound => (nomatch bound), fun ⟨_, found, _⟩ => (nomatch found)⟩
  | ok middle => simp [bind, Except.bind]

namespace Options

variable {arguments : List String} {uses : List Use}

/-- The options after one more use. -/
def apply (options : Options) : Use → Except Misuse Options
  | .on switch => .ok (options.turnOn switch)
  | .set setting value => options.give setting value

theorem readAll_on {flag : String} {switch : Switch} (written : flag ∈ switch.flags)
    (options : Options) (rest : List String) :
    options.readAll (flag :: rest) = options.apply (.on switch) >>= (readAll · rest) := by
  simp only [readAll.eq_def options (flag :: rest), Switch.ofFlag?_eq_some_iff.mpr written]
  rfl

theorem readAll_set {flag : String} {setting : Setting} (written : flag ∈ setting.flags)
    (options : Options) (value : String) (rest : List String) :
    options.readAll (flag :: value :: rest) =
      options.apply (.set setting value) >>= (readAll · rest) := by
  simp only [readAll.eq_def options (flag :: value :: rest), Switch.ofFlag?_of_mem_flags written,
    Setting.ofFlag?_eq_some_iff.mpr written]
  rfl

theorem readAll_append_of_splits (splits : Splits arguments uses) (options : Options)
    (rest : List String) :
    options.readAll (arguments ++ rest) = uses.foldlM apply options >>= (readAll · rest) := by
  induction splits generalizing options with
  | nil => rfl
  | on written _ ih =>
      simp only [List.cons_append, readAll_on written, List.foldlM_cons, bind_assoc, ih]
  | set written _ ih =>
      simp only [List.cons_append, readAll_set written, List.foldlM_cons, bind_assoc, ih]

theorem readAll_of_splits (splits : Splits arguments uses) (options : Options) :
    options.readAll arguments = uses.foldlM apply options := by
  have whole := readAll_append_of_splits splits options []
  rw [List.append_nil] at whole
  rw [whole]
  cases uses.foldlM apply options with
  | error misuse => rfl
  | ok last => rfl

theorem exists_splits_of_readAll {options last : Options}
    (read : options.readAll arguments = .ok last) : ∃ uses, Splits arguments uses := by
  fun_induction readAll options arguments with
  | case1 => exact ⟨[], .nil⟩
  | case2 options flag rest switch found ih =>
      obtain ⟨uses, splits⟩ := ih read
      exact ⟨_, .on (Switch.ofFlag?_eq_some_iff.mp found) splits⟩
  | case3 => cases read
  | case4 => cases read
  | case5 options flag _ setting value rest found ih =>
      obtain ⟨later, _, read⟩ := bind_eq_ok_iff.mp read
      obtain ⟨uses, splits⟩ := ih later read
      exact ⟨_, .set (Setting.ofFlag?_eq_some_iff.mp found) splits⟩

end Options

end SentenceCards.CommandLine
