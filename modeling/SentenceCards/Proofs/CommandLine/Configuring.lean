import Mathlib.Data.List.Perm.Basic
import Mathlib.Data.Option.Basic
import Mathlib.Tactic.MkIffOfInductiveProp
import SentenceCards.Proofs.CommandLine.Splitting

/-!
# What the command line configures

Of every option the last value counts, and a switch is on if it was used.  Every use of an option
adds to what is configured (`Options.configures_apply`), so using options in turn gives the one
configuration that they stand for (`Options.foldlM_apply_eq_ok_iff`).
-/

namespace SentenceCards

theorem Pattern.ofName_eq_ok_iff {name : String} {pattern : Pattern} :
    Pattern.ofName name = .ok pattern ↔ pattern.name = name := by
  have found : Pattern.ofName? name = some pattern ↔ pattern.name = name := by
    constructor
    · intro found
      have same := List.find?_some found
      exact beq_iff_eq.mp same
    · rintro rfl
      exact Pattern.ofName?_name pattern
  rw [← found, Pattern.ofName]
  cases Pattern.ofName? name <;> simp

theorem Pattern.name_injective : Function.Injective Pattern.name := by
  intro pattern other same
  have found := Pattern.ofName?_name pattern
  rw [same, Pattern.ofName?_name] at found
  exact (Option.some.inj found).symm

namespace CommandLine

/-- The values that an option was given, in this order. -/
def valuesOf (setting : Setting) (uses : List Use) : List String :=
  uses.filterMap fun
    | .set other value => if other = setting then some value else none
    | .on _ => none

/-- Whether a switch is on. -/
def Options.isOn (options : Options) : Switch → Bool
  | .help => options.help
  | .version => options.version
  | .trace => options.trace
  | .traceJson => options.traceJson
  | .pluralize => options.pluralize

/-- The value of an option is the one that was given, or there is none if none was given. -/
def Options.Holds (options : Options) : Setting → Option String → Prop
  | .lesson, given => options.lesson = given
  | .free, given => options.free.map Pattern.name = given
  | .seed, given =>
      Option.Rel (fun seed value => Text.Denotes value.toList seed.toNat) options.seed given
  | .decoys, given =>
      Option.Rel (fun decoys value => Text.Denotes value.toList decoys ∧ decoys < UInt64.size)
        options.decoys given
  | .load, given => options.load = given
  | .batch, given => options.batch = given

/-- Switches are on if they were used, and options have the last values that they were given. -/
@[mk_iff]
structure Configures (uses : List Use) (options : Options) : Prop where
  /-- A trace in JSON is a trace. -/
  switches : ∀ switch, options.isOn switch = true ↔
    .on switch ∈ uses ∨ switch = .trace ∧ .on .traceJson ∈ uses
  settings : ∀ setting, options.Holds setting (valuesOf setting uses).getLast?

section Values

variable {setting : Setting} {uses : List Use}

theorem valuesOf_append_on (switch : Switch) :
    valuesOf setting (uses ++ [.on switch]) = valuesOf setting uses := by
  simp [valuesOf]

theorem getLast?_valuesOf_append_set (other : Setting) (value : String) :
    (valuesOf setting (uses ++ [.set other value])).getLast? =
      if other = setting then some value else (valuesOf setting uses).getLast? := by
  by_cases same : other = setting <;> simp [valuesOf, same]

end Values

namespace Options

variable {options other last : Options} {uses : List Use}

theorem eq_of_rel {α : Type} {denotes : α → String → Prop} {given : Option String}
    {first second : Option α} (unique : ∀ a b text, denotes a text → denotes b text → a = b)
    (one : Option.Rel denotes first given) (two : Option.Rel denotes second given) :
    first = second := by
  cases one with
  | none => cases two; rfl
  | some here =>
      cases two with
      | some there => rw [unique _ _ _ here there]

theorem configures_unique (one : Configures uses options) (two : Configures uses other) :
    options = other := by
  have switched (switch : Switch) : options.isOn switch = other.isOn switch :=
    Bool.eq_iff_iff.mpr ((one.switches switch).trans (two.switches switch).symm)
  have free : options.free = other.free := Option.map_injective Pattern.name_injective
    ((one.settings .free).trans (two.settings .free).symm)
  have seed : options.seed = other.seed := eq_of_rel
    (fun _ _ _ here there => UInt64.toNat_inj.mp (here.unique there))
    (one.settings .seed) (two.settings .seed)
  have decoys : options.decoys = other.decoys := eq_of_rel
    (fun _ _ _ here there => here.1.unique there.1)
    (one.settings .decoys) (two.settings .decoys)
  obtain ⟨_⟩ := options
  obtain ⟨_⟩ := other
  exact (Options.mk.injEq ..).mpr ⟨switched .help, switched .version, switched .trace,
    switched .traceJson, switched .pluralize,
    (one.settings .lesson).trans (two.settings .lesson).symm, free, seed, decoys,
    (one.settings .load).trans (two.settings .load).symm,
    (one.settings .batch).trans (two.settings .batch).symm⟩

theorem configures_blank : Configures [] blank where
  switches := by
    intro switch
    cases switch <;> simp [isOn, blank]
  settings := by
    intro setting
    cases setting <;> simp [Holds, blank, valuesOf]

theorem isOn_turnOn (options : Options) (switch other : Switch) :
    (options.turnOn switch).isOn other = true ↔
      options.isOn other = true ∨ other = switch ∨ other = .trace ∧ switch = .traceJson := by
  cases switch <;> cases other <;> simp [isOn, turnOn]

theorem holds_turnOn (options : Options) (switch : Switch) (setting : Setting)
    (given : Option String) : (options.turnOn switch).Holds setting given ↔
      options.Holds setting given := by
  cases switch <;> cases setting <;> rfl

/-- How an option can be given a value. -/
inductive Gives (options : Options) : Setting → String → Options → Prop where
  | lesson {value : String} : Gives options .lesson value { options with lesson := some value }
  | free {value : String} {pattern : Pattern} : pattern.name = value →
      Gives options .free value { options with free := some pattern }
  | seed {value : String} {seed : UInt64} : Text.Denotes value.toList seed.toNat →
      Gives options .seed value { options with seed := some seed }
  | decoys {value : String} {decoys : Nat} : Text.Denotes value.toList decoys →
      decoys < UInt64.size → Gives options .decoys value { options with decoys := some decoys }
  | load {value : String} : Gives options .load value { options with load := some value }
  | batch {value : String} : Gives options .batch value { options with batch := some value }

theorem give_eq_ok_iff {setting : Setting} {value : String} :
    options.give setting value = .ok last ↔ options.Gives setting value last := by
  constructor
  · intro given
    cases setting with
    | lesson => obtain rfl := Except.ok.inj given; exact .lesson
    | load => obtain rfl := Except.ok.inj given; exact .load
    | batch => obtain rfl := Except.ok.inj given; exact .batch
    | free =>
        cases found : Pattern.ofName value with
        | error failure => simp [give, found] at given
        | ok pattern =>
            obtain rfl : { options with free := some pattern } = last := by
              simpa [give, found] using given
            exact .free (Pattern.ofName_eq_ok_iff.mp found)
    | seed =>
        cases found : Text.readWord64? value with
        | none => simp [give, found] at given
        | some n =>
            obtain rfl : { options with seed := some n.toUInt64 } = last := by
              simpa [give, found] using given
            obtain ⟨denotes, bound⟩ := Text.readWord64?_eq_some_iff.mp found
            exact .seed (by rwa [Nat.toUInt64_eq, UInt64.toNat_ofNat_of_lt' bound])
    | decoys =>
        cases found : Text.readWord64? value with
        | none => simp [give, found] at given
        | some n =>
            obtain rfl : { options with decoys := some n } = last := by
              simpa [give, found] using given
            obtain ⟨denotes, bound⟩ := Text.readWord64?_eq_some_iff.mp found
            exact .decoys denotes bound
  · intro gives
    cases gives with
    | lesson | load | batch => rfl
    | free named => simp [give, Pattern.ofName_eq_ok_iff.mpr named]
    | seed denotes =>
        simp [give, Text.readWord64?_eq_some_iff.mpr ⟨denotes, UInt64.toNat_lt _⟩]
    | decoys denotes bound => simp [give, Text.readWord64?_eq_some_iff.mpr ⟨denotes, bound⟩]

namespace Gives

variable {setting : Setting} {value : String} (gives : options.Gives setting value last)
include gives

theorem admits : setting.Admits value := by
  cases gives with
  | lesson | load | batch => trivial
  | free named => exact ⟨_, named⟩
  | seed denotes => exact ⟨_, UInt64.toNat_lt _, denotes⟩
  | decoys denotes bound => exact ⟨_, bound, denotes⟩

theorem holds : last.Holds setting (some value) := by
  cases gives with
  | lesson | load | batch => rfl
  | free named => exact congrArg some named
  | seed denotes => exact .some denotes
  | decoys denotes bound => exact .some ⟨denotes, bound⟩

/-- The other options keep their values. -/
theorem holds_iff {other : Setting} (apart : setting ≠ other) (before : Option String) :
    last.Holds other before ↔ options.Holds other before := by
  cases gives <;> cases other <;> first | rfl | exact absurd rfl apart

theorem isOn_eq (switch : Switch) : last.isOn switch = options.isOn switch := by
  cases gives <;> cases switch <;> rfl

end Gives

theorem exists_gives {setting : Setting} {value : String} (admits : setting.Admits value)
    (options : Options) : ∃ last, options.Gives setting value last := by
  cases setting with
  | lesson => exact ⟨_, .lesson⟩
  | load => exact ⟨_, .load⟩
  | batch => exact ⟨_, .batch⟩
  | free =>
      obtain ⟨pattern, named⟩ := admits
      exact ⟨_, .free named⟩
  | seed =>
      obtain ⟨n, bound, denotes⟩ := admits
      rw [← UInt64.toNat_ofNat_of_lt' bound] at denotes
      exact ⟨_, .seed denotes⟩
  | decoys =>
      obtain ⟨n, bound, denotes⟩ := admits
      exact ⟨_, .decoys denotes bound⟩

theorem exists_apply {use : Use} (admitted : use.Admitted) (options : Options) :
    ∃ last, options.apply use = .ok last := by
  cases use with
  | on switch => exact ⟨_, rfl⟩
  | set setting value =>
      obtain ⟨last, gives⟩ := exists_gives admitted options
      exact ⟨last, give_eq_ok_iff.mpr gives⟩

theorem admitted_of_apply {use : Use} (applied : options.apply use = .ok last) :
    use.Admitted := by
  cases use with
  | on switch => trivial
  | set setting value => exact (give_eq_ok_iff.mp applied).admits

/-- One more use adds to what is configured. -/
theorem configures_apply {use : Use} (configures : Configures uses options)
    (applied : options.apply use = .ok last) : Configures (uses ++ [use]) last := by
  cases use with
  | on switch =>
      obtain rfl := Except.ok.inj applied
      constructor
      · intro other
        rw [isOn_turnOn, configures.switches]
        simp only [List.mem_append, List.mem_singleton, Use.on.injEq]
        tauto
      · intro setting
        rw [holds_turnOn, valuesOf_append_on]
        exact configures.settings setting
  | set setting value =>
      have gives := give_eq_ok_iff.mp applied
      constructor
      · intro switch
        rw [gives.isOn_eq, configures.switches]
        simp
      · intro other
        rw [getLast?_valuesOf_append_set]
        by_cases same : setting = other
        · subst same
          rw [if_pos rfl]
          exact gives.holds
        · rw [if_neg same, gives.holds_iff same]
          exact configures.settings other

theorem configures_foldlM {front : List Use} (configures : Configures front options)
    (used : uses.foldlM apply options = .ok last) : Configures (front ++ uses) last := by
  induction uses generalizing front options with
  | nil =>
      obtain rfl := Except.ok.inj used
      rwa [List.append_nil]
  | cons use rest ih =>
      rw [List.foldlM_cons] at used
      obtain ⟨next, applied, used⟩ := bind_eq_ok_iff.mp used
      have whole := ih (configures_apply configures applied) used
      rwa [List.append_assoc] at whole

theorem exists_foldlM_iff : (∃ last, uses.foldlM apply options = .ok last) ↔
    ∀ use ∈ uses, use.Admitted := by
  induction uses generalizing options with
  | nil => exact ⟨fun _ _ member => absurd member List.not_mem_nil, fun _ => ⟨options, rfl⟩⟩
  | cons use rest ih =>
      simp only [List.forall_mem_cons, List.foldlM_cons, bind_eq_ok_iff]
      constructor
      · rintro ⟨last, next, applied, used⟩
        exact ⟨admitted_of_apply applied, ih.mp ⟨last, used⟩⟩
      · rintro ⟨admitted, others⟩
        obtain ⟨next, applied⟩ := exists_apply admitted options
        obtain ⟨last, used⟩ := ih.mpr others
        exact ⟨last, next, applied, used⟩

/-- Using options in turn, from none on, gives what they configure. -/
theorem foldlM_apply_eq_ok_iff : uses.foldlM apply blank = .ok options ↔
    (∀ use ∈ uses, use.Admitted) ∧ Configures uses options := by
  constructor
  · intro used
    exact ⟨exists_foldlM_iff.mp ⟨options, used⟩, configures_foldlM configures_blank used⟩
  · rintro ⟨admitted, configures⟩
    obtain ⟨last, used⟩ := exists_foldlM_iff.mpr admitted
    rwa [configures_unique configures (configures_foldlM configures_blank used)]

end Options

end CommandLine

end SentenceCards
