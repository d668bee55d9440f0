import Mathlib.Tactic.FinCases
import SentenceCards.Curriculum.Standard
import SentenceCards.Proofs.Keys

/-!
# Challenges of a lesson

Lessons and challenges are numbered: the id of a lesson has a numeral for its module and one of its
own, and the id of a challenge has those of its lesson and one more.  A lesson is given the
challenges with its two numerals and no others, however the numerals begin
(`Curriculum.challenges_assigned_by_number`).
-/

namespace SentenceCards

/-- A decimal numeral of any length. -/
def IsNumeral (text : String) : Prop := text ≠ "" ∧ ∀ c ∈ text.toList, c.isDigit = true

instance (text : String) : Decidable (IsNumeral text) :=
  decidable_of_iff (text ≠ "" ∧ text.toList.all Char.isDigit = true) (by simp [IsNumeral])

def lessonId (m n : String) : String := "lesson_" ++ m ++ "_" ++ n

def challengeId (m n k : String) : String := "c_" ++ m ++ "_" ++ n ++ "_" ++ k

/-- The numerals of the lesson in the id of a challenge. -/
def lessonNumerals? (id : String) : Option (String × String) :=
  match id.toList.splitOn '_' with
  | [_, m, n, _] => some (.ofList m, .ofList n)
  | _ => none

section Ids

variable {m n k : String}

theorem IsNumeral.unmarked (numeral : IsNumeral n) : '_' ∉ n.toList := by
  intro marked
  have digit := numeral.2 '_' marked
  cases digit

theorem IsNumeral.begins (numeral : IsNumeral n) :
    ∃ c rest, n.toList = c :: rest ∧ c.isDigit = true := by
  cases text : n.toList with
  | nil => exact absurd (String.toList_eq_nil_iff.mp text) numeral.1
  | cons c rest => exact ⟨c, rest, rfl, numeral.2 c (by simp [text])⟩

theorem lessonNumerals?_challengeId (first : IsNumeral m) (second : IsNumeral n)
    (third : IsNumeral k) : lessonNumerals? (challengeId m n k) = some (m, n) := by
  have fields : (challengeId m n k).toList =
      ['_'].intercalate [['c'], m.toList, n.toList, k.toList] := by
    simp [challengeId, List.intercalate]
  have unmarked : ∀ field ∈ [['c'], m.toList, n.toList, k.toList], '_' ∉ field := by
    simp [first.unmarked, second.unmarked, third.unmarked]
  rw [lessonNumerals?, fields, List.splitOn_intercalate '_' unmarked (by simp)]
  simp

/-- Of two texts with marks, one begins with the other just if they agree up to the first mark and
one rest begins with the other. -/
theorem append_mark_prefix_iff {first second rest more : List Char} (unmarked : '_' ∉ first)
    (unmarkedToo : '_' ∉ second) :
    first ++ '_' :: rest <+: second ++ '_' :: more ↔ first = second ∧ rest <+: more := by
  induction first generalizing second with
  | nil =>
      cases second with
      | nil => simp [List.cons_prefix_cons]
      | cons c others =>
          have other : '_' ≠ c := by
            rintro rfl
            exact unmarkedToo List.mem_cons_self
          simp [List.cons_prefix_cons, other]
  | cons c others ih =>
      rw [List.mem_cons, not_or] at unmarked
      cases second with
      | nil => simp [List.cons_prefix_cons, Ne.symm unmarked.1]
      | cons d others =>
          rw [List.mem_cons, not_or] at unmarkedToo
          simp [List.cons_prefix_cons, ih unmarked.2 unmarkedToo.2, and_assoc]

theorem dropCopies_append {head rest : List Char} (nonempty : head ≠ [])
    (ends : ¬ head <+: rest) : dropCopies head (head ++ rest) = rest := by
  rw [dropCopies, dif_pos ⟨nonempty, List.isPrefixOf_iff_prefix.mpr (List.prefix_append _ _)⟩,
    List.drop_left, dropCopies, dif_neg]
  rintro ⟨-, again⟩
  exact ends (List.isPrefixOf_iff_prefix.mp again)

theorem lessonNumber_lessonId (first : IsNumeral m) :
    lessonNumber (lessonId m n) = m ++ "_" ++ n := by
  have text : (lessonId m n).toList = "lesson_".toList ++ (m ++ "_" ++ n).toList := by
    simp [lessonId]
  obtain ⟨c, rest, begins, digit⟩ := first.begins
  have ends : ¬ "lesson_".toList <+: (m ++ "_" ++ n).toList := by
    -- A digit comes next, so no further `lesson_` is dropped.
    intro again
    have number : (m ++ "_" ++ n).toList = c :: (rest ++ '_' :: n.toList) := by simp [begins]
    rw [number, show "lesson_".toList = 'l' :: "esson_".toList from rfl] at again
    obtain ⟨rfl, -⟩ := List.cons_prefix_cons.mp again
    cases digit
  rw [lessonNumber, text, dropCopies_append (by decide) ends, String.ofList_toList]

/-- A challenge id continues the number of a lesson just if it has the numerals of the lesson. -/
theorem beginning_prefix_iff {m' n' k' : String} (first : IsNumeral m) (second : IsNumeral n)
    (first' : IsNumeral m') (second' : IsNumeral n') :
    ("c_" ++ lessonNumber (lessonId m n) ++ "_").toList <+: (challengeId m' n' k').toList ↔
      m = m' ∧ n = n' := by
  have beginning : ("c_" ++ lessonNumber (lessonId m n) ++ "_").toList =
      'c' :: '_' :: (m.toList ++ '_' :: (n.toList ++ '_' :: [])) := by
    simp [lessonNumber_lessonId first]
  have whole : (challengeId m' n' k').toList =
      'c' :: '_' :: (m'.toList ++ '_' :: (n'.toList ++ '_' :: k'.toList)) := by
    simp [challengeId]
  rw [beginning, whole, List.cons_prefix_cons, List.cons_prefix_cons,
    append_mark_prefix_iff first.unmarked first'.unmarked,
    append_mark_prefix_iff second.unmarked second'.unmarked, String.toList_inj, String.toList_inj]
  simp

theorem lessonId_inj {m' n' : String} (first : IsNumeral m) (first' : IsNumeral m')
    (same : lessonId m n = lessonId m' n') : m = m' ∧ n = n' := by
  have texts : m.toList ++ '_' :: n.toList = m'.toList ++ '_' :: n'.toList := by
    simpa [lessonId] using congrArg String.toList same
  have begins : m.toList ++ '_' :: n.toList <+: m'.toList ++ '_' :: n'.toList := by simp [texts]
  obtain ⟨fronts, -⟩ := (append_mark_prefix_iff first.unmarked first'.unmarked).mp begins
  rw [fronts, List.append_cancel_left_eq, List.cons.injEq] at texts
  exact ⟨String.toList_inj.mp fronts, String.toList_inj.mp texts.2⟩

end Ids

namespace Curriculum

/-- Lessons and challenges are numbered, and no two lessons alike. -/
structure Numbered (curriculum : Curriculum) : Prop where
  different : (curriculum.lessons.map Lesson.id).Nodup
  lessons : ∀ lesson ∈ curriculum.lessons,
    ∃ m n, IsNumeral m ∧ IsNumeral n ∧ lesson.id = lessonId m n
  challenges : ∀ challenge ∈ curriculum.challenges,
    ∃ m n k, IsNumeral m ∧ IsNumeral n ∧ IsNumeral k ∧ challenge.id = challengeId m n k

/-- The id of the lesson that a challenge is numbered for. -/
def lessonIdOf? (challenge : Challenge) : Option String :=
  (lessonNumerals? challenge.id).map fun (m, n) => lessonId m n

variable {curriculum : Curriculum}

/-- A lesson is given the challenges with its numerals. -/
theorem Numbered.challengesOf_eq (numbered : curriculum.Numbered) {m n : String}
    (first : IsNumeral m) (second : IsNumeral n) :
    curriculum.challengesOf (lessonId m n) =
      curriculum.challenges.filter (lessonNumerals? ·.id == some (m, n)) := by
  refine List.filter_congr fun challenge listed => ?_
  obtain ⟨m', n', k', first', second', third', named⟩ := numbered.challenges challenge listed
  rw [Bool.eq_iff_iff, List.isPrefixOf_iff_prefix, named,
    beginning_prefix_iff first second first' second',
    lessonNumerals?_challengeId first' second' third', beq_iff_eq, Option.some_inj,
    Prod.mk.injEq, eq_comm, @eq_comm _ n]

theorem Numbered.challengesOf_lesson (numbered : curriculum.Numbered) {lesson : Lesson}
    (taught : lesson ∈ curriculum.lessons) :
    curriculum.challengesOf lesson.id =
      curriculum.challenges.filter (lessonIdOf? · == some lesson.id) := by
  obtain ⟨m, n, first, second, named⟩ := numbered.lessons lesson taught
  rw [named, numbered.challengesOf_eq first second]
  refine List.filter_congr fun challenge listed => ?_
  obtain ⟨m', n', k', first', second', third', own⟩ := numbered.challenges challenge listed
  rw [Bool.eq_iff_iff, lessonIdOf?, own, lessonNumerals?_challengeId first' second' third',
    beq_iff_eq, beq_iff_eq, Option.map_some, Option.some_inj, Option.some_inj, Prod.mk.injEq]
  constructor
  · rintro ⟨rfl, rfl⟩
    rfl
  · exact lessonId_inj first' first

theorem Numbered.eq_of_mem_challengesOf (numbered : curriculum.Numbered) {one other : Lesson}
    (taught : one ∈ curriculum.lessons) (taughtToo : other ∈ curriculum.lessons)
    {challenge : Challenge} (given : challenge ∈ curriculum.challengesOf one.id)
    (givenToo : challenge ∈ curriculum.challengesOf other.id) : one = other := by
  rw [numbered.challengesOf_lesson taught] at given
  rw [numbered.challengesOf_lesson taughtToo] at givenToo
  have here : lessonIdOf? challenge = some one.id := by simpa using List.of_mem_filter given
  have there : lessonIdOf? challenge = some other.id := by simpa using List.of_mem_filter givenToo
  exact List.inj_on_of_nodup_map numbered.different taught taughtToo
    (Option.some.inj (here.symm.trans there))

theorem Numbered.flatMap_challengesOf_perm (numbered : curriculum.Numbered) :
    (curriculum.lessons.flatMap fun lesson => curriculum.challengesOf lesson.id).Perm
      (curriculum.challenges.filter fun challenge =>
        ((lessonIdOf? challenge).bind curriculum.lesson?).isSome) := by
  let keys := curriculum.lessons.map fun lesson => some lesson.id
  have different : keys.Nodup := by
    have apart := numbered.different.map fun _ _ => Option.some.inj
    rwa [List.map_map] at apart
  have each : (curriculum.lessons.flatMap fun lesson => curriculum.challengesOf lesson.id) =
      keys.flatMap fun wanted => curriculum.challenges.filter (lessonIdOf? · == wanted) := by
    rw [List.flatMap_map]
    exact List.flatMap_congr fun lesson taught => numbered.challengesOf_lesson taught
  have known : curriculum.challenges.filter (lessonIdOf? · ∈ keys) =
      curriculum.challenges.filter fun challenge =>
        ((lessonIdOf? challenge).bind curriculum.lesson?).isSome := by
    refine List.filter_congr fun challenge _ => ?_
    rw [Bool.eq_iff_iff]
    cases lessonIdOf? challenge with
    | none => simp [keys]
    | some id => simp [keys, lesson?]
  rw [each, ← known]
  exact flatMap_filter_perm different lessonIdOf? curriculum.challenges

/-- The challenges of a numbered lesson are those with its two numerals, in the order of the
curriculum.  No challenge is given to two lessons, and each whose lesson is there is given once. -/
theorem challenges_assigned_by_number (curriculum : Curriculum)
    (numbered : curriculum.Numbered) :
    (∀ m n k, IsNumeral m → IsNumeral n → IsNumeral k →
      lessonNumerals? (challengeId m n k) = some (m, n)) ∧
      (∀ m n, IsNumeral m → IsNumeral n →
        curriculum.challengesOf (lessonId m n) =
          curriculum.challenges.filter (lessonNumerals? ·.id == some (m, n))) ∧
      (∀ one ∈ curriculum.lessons, ∀ other ∈ curriculum.lessons,
        ∀ challenge ∈ curriculum.challengesOf one.id,
          challenge ∈ curriculum.challengesOf other.id → one = other) ∧
      (curriculum.lessons.flatMap fun lesson => curriculum.challengesOf lesson.id).Perm
        (curriculum.challenges.filter fun challenge =>
          ((lessonIdOf? challenge).bind curriculum.lesson?).isSome) := by
  exact ⟨fun _ _ _ => lessonNumerals?_challengeId, fun _ _ => numbered.challengesOf_eq,
    fun _ taught _ taughtToo _ => numbered.eq_of_mem_challengesOf taught taughtToo,
    numbered.flatMap_challengesOf_perm⟩

/-- The lessons `1_1`, `1_10` and `11_1` share no challenge. -/
theorem challenges_assigned_by_number_longer :
    let lessons : List Lesson :=
      [{ meetKo with id := "lesson_1_1" }, { meetKo with id := "lesson_1_10" },
        { meetKo with id := "lesson_11_1" }]
    let curriculum : Curriculum :=
      ⟨[{ foundations with lessons := lessons }],
        ["c_1_10_1", "c_1_1_1", "c_11_1_1", "c_9_9_1", "c_1_1_10"].map (Challenge.plain · .ko)⟩
    curriculum.Numbered ∧
      (curriculum.challengesOf "lesson_1_1").map Challenge.id = ["c_1_1_1", "c_1_1_10"] ∧
      (curriculum.lessons.flatMap fun lesson => curriculum.challengesOf lesson.id).length = 4 := by
  intro lessons curriculum
  have numbered : curriculum.Numbered := by
    refine ⟨by decide, ?_, ?_⟩
    · intro lesson taught
      fin_cases taught
      · exact ⟨"1", "1", by decide, by decide, rfl⟩
      · exact ⟨"1", "10", by decide, by decide, rfl⟩
      · exact ⟨"11", "1", by decide, by decide, rfl⟩
    · intro challenge listed
      fin_cases listed
      · exact ⟨"1", "10", "1", by decide, by decide, by decide, rfl⟩
      · exact ⟨"1", "1", "1", by decide, by decide, by decide, rfl⟩
      · exact ⟨"11", "1", "1", by decide, by decide, by decide, rfl⟩
      · exact ⟨"9", "9", "1", by decide, by decide, by decide, rfl⟩
      · exact ⟨"1", "1", "10", by decide, by decide, by decide, rfl⟩
  obtain ⟨-, given, -, together⟩ := challenges_assigned_by_number curriculum numbered
  refine ⟨numbered, ?_, ?_⟩
  · have own := given "1" "1" (by decide) (by decide)
    rw [show lessonId "1" "1" = "lesson_1_1" by decide] at own
    rw [own]
    cbv
  · rw [together.length_eq]
    cbv

end Curriculum

end SentenceCards
