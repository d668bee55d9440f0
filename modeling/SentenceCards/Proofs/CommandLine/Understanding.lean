import SentenceCards.Proofs.CommandLine.Configuring

/-!
# Which arguments are understood

Arguments are understood just if they split into options with values that these admit, not a lesson
beside a pattern, and they configure what was used.  Unless an option is repeated, the order does
not matter (`Options.arguments_understood_exactly`).
-/

namespace SentenceCards.CommandLine

/-- What can be asked for: values of the right form, and not a lesson beside a pattern. -/
structure Acceptable (uses : List Use) : Prop where
  admitted : ∀ use ∈ uses, use.Admitted
  exclusive : valuesOf .lesson uses = [] ∨ valuesOf .free uses = []

/-- The same uses in another order, where the values of an option that was used more than once
keep theirs. -/
structure Reorders (others uses : List Use) : Prop where
  perm : others.Perm uses
  repeated : ∀ setting, 1 < (valuesOf setting uses).length →
    valuesOf setting others = valuesOf setting uses

theorem Reorders.valuesOf_eq {others uses : List Use} (reorders : Reorders others uses)
    (setting : Setting) :
    valuesOf setting others = valuesOf setting uses := by
  have perm : (valuesOf setting others).Perm (valuesOf setting uses) := reorders.perm.filterMap _
  by_cases many : 1 < (valuesOf setting uses).length
  · exact reorders.repeated setting many
  · match values : valuesOf setting uses, many with
    | [], _ => exact List.perm_nil.mp (values ▸ perm)
    | [value], _ => exact List.perm_singleton.mp (values ▸ perm)
    | _ :: _ :: _, many => simp at many

namespace Options

variable {options : Options} {uses others : List Use}

theorem foldlM_reordered_iff (reorders : Reorders others uses) :
    others.foldlM apply blank = .ok options ↔ uses.foldlM apply blank = .ok options := by
  -- Neither what is admitted nor what is configured depends on the order.
  simp only [foldlM_apply_eq_ok_iff, configures_iff, reorders.perm.mem_iff, reorders.valuesOf_eq]

theorem read_eq_ok_iff {arguments : List String} : read arguments = .ok options ↔
    blank.readAll arguments = .ok options ∧
      ¬ (options.lesson.isSome = true ∧ options.free.isSome = true) := by
  have checked : read arguments = blank.readAll arguments >>= fun found =>
      if found.lesson.isSome ∧ found.free.isSome then .error .lessonAndFree else .ok found := by
    unfold read
    congr 1
  rw [checked, bind_eq_ok_iff]
  constructor
  · rintro ⟨found, understood, passed⟩
    split at passed
    · cases passed
    · next apart =>
        obtain rfl := Except.ok.inj passed
        exact ⟨understood, apart⟩
  · rintro ⟨understood, apart⟩
    exact ⟨options, understood, if_neg apart⟩

/-- A lesson and a pattern are not both configured if they were not both given. -/
theorem not_both_iff (configures : Configures uses options) :
    ¬ (options.lesson.isSome = true ∧ options.free.isSome = true) ↔
      valuesOf .lesson uses = [] ∨ valuesOf .free uses = [] := by
  have lesson : options.lesson.isSome = true ↔ valuesOf .lesson uses ≠ [] := by
    rw [show options.lesson = _ from configures.settings .lesson, List.getLast?_isSome]
  have free : options.free.isSome = true ↔ valuesOf .free uses ≠ [] := by
    rw [← Option.isSome_map (f := Pattern.name),
      show options.free.map _ = _ from configures.settings .free, List.getLast?_isSome]
  rw [lesson, free]
  tauto

theorem read_eq_ok_iff_configures {arguments : List String} : read arguments = .ok options ↔
    ∃ uses, Splits arguments uses ∧ Acceptable uses ∧ Configures uses options := by
  rw [read_eq_ok_iff]
  constructor
  · rintro ⟨understood, apart⟩
    obtain ⟨uses, splits⟩ := exists_splits_of_readAll understood
    rw [readAll_of_splits splits, foldlM_apply_eq_ok_iff] at understood
    obtain ⟨admitted, configures⟩ := understood
    exact ⟨uses, splits, ⟨admitted, (not_both_iff configures).mp apart⟩, configures⟩
  · rintro ⟨uses, splits, ⟨admitted, exclusive⟩, configures⟩
    rw [readAll_of_splits splits, foldlM_apply_eq_ok_iff]
    exact ⟨⟨admitted, configures⟩, (not_both_iff configures).mpr exclusive⟩

theorem exists_configures (admitted : ∀ use ∈ uses, use.Admitted) :
    ∃ options, Configures uses options := by
  obtain ⟨options, used⟩ := exists_foldlM_iff.mpr admitted
  exact ⟨options, configures_foldlM configures_blank used⟩

/-- Arguments are understood just if they split into options that can be asked for, and then the
last values and the used switches are configured.  The order of options that are not repeated does
not matter, whatever comes after them. -/
theorem arguments_understood_exactly (arguments : List String) :
    ((∃ options, read arguments = .ok options) ↔
        ∃ uses, Splits arguments uses ∧ Acceptable uses) ∧
      (∀ options, read arguments = .ok options ↔
        ∃ uses, Splits arguments uses ∧ Acceptable uses ∧ Configures uses options) ∧
      ∀ uses reordered others, Splits arguments uses → Splits reordered others →
        Reorders others uses → ∀ rest options,
          read (reordered ++ rest) = .ok options ↔ read (arguments ++ rest) = .ok options := by
  refine ⟨?_, fun options => read_eq_ok_iff_configures, ?_⟩
  · simp only [read_eq_ok_iff_configures]
    constructor
    · rintro ⟨options, uses, splits, acceptable, _⟩
      exact ⟨uses, splits, acceptable⟩
    · rintro ⟨uses, splits, acceptable⟩
      obtain ⟨options, configures⟩ := exists_configures acceptable.admitted
      exact ⟨options, uses, splits, acceptable, configures⟩
  · intro uses reordered others splits splitsToo reorders rest options
    rw [read_eq_ok_iff, read_eq_ok_iff, readAll_append_of_splits splits,
      readAll_append_of_splits splitsToo]
    simp only [bind_eq_ok_iff, foldlM_reordered_iff reorders]

/-- A lesson id that looks like an option, and an option that is given twice. -/
theorem arguments_understood_exactly_reordered :
    let arguments := ["-l", "--seed", "--trace-json", "--lesson", "lesson_1_2", "--seed", "+9"]
    let reordered := ["--seed", "+9", "-l", "--seed", "-l", "lesson_1_2", "--trace-json"]
    let uses : List Use :=
      [.set .lesson "--seed", .on .traceJson, .set .lesson "lesson_1_2", .set .seed "+9"]
    let others : List Use :=
      [.set .seed "+9", .set .lesson "--seed", .set .lesson "lesson_1_2", .on .traceJson]
    Splits arguments uses ∧ Splits reordered others ∧ Reorders others uses ∧
      read (reordered ++ ["--trace"]) = .ok { blank with
        trace := true, traceJson := true, lesson := some "lesson_1_2", seed := some 9 } := by
  intro arguments reordered uses others
  have splits : Splits arguments uses :=
    .set (by decide) (.on (by decide) (.set (by decide) (.set (by decide) .nil)))
  have splitsToo : Splits reordered others :=
    .set (by decide) (.set (by decide) (.set (by decide) (.on (by decide) .nil)))
  have reorders : Reorders others uses := ⟨by decide, by
    intro setting
    cases setting <;> decide⟩
  refine ⟨splits, splitsToo, reorders, ?_⟩
  rw [(arguments_understood_exactly arguments).2.2 uses reordered others splits splitsToo reorders]
  rfl

end Options

end SentenceCards.CommandLine
