import SentenceCards.Curriculum.Standard
import SentenceCards.Proofs.Keys

/-!
# From lesson to lesson

The lessons of a module stand in the order of their positions, and those in the same position as
they are listed.  Going on from lesson to lesson follows this order through the module, from its
first lesson to its last, and going back undoes it (`Curriculum.lessons_walked_in_order`).
-/

namespace SentenceCards

/-- The lessons by their positions, and in the same position as they are listed. -/
structure InPosition (listed ordered : List Lesson) : Prop where
  perm : ordered.Perm listed
  sorted : ordered.Pairwise (·.order ≤ ·.order)
  stable : ∀ position,
    ordered.filter (·.order == position) = listed.filter (·.order == position)

theorem CourseModule.inPosition_inOrder (course : CourseModule) :
    InPosition course.lessons course.inOrder := by
  have transitive (first second third : Lesson) :
      decide (first.order ≤ second.order) = true → decide (second.order ≤ third.order) = true →
        decide (first.order ≤ third.order) = true := by
    simp only [decide_eq_true_eq]
    exact Nat.le_trans
  have total (first second : Lesson) :
      (decide (first.order ≤ second.order) || decide (second.order ≤ first.order)) = true := by
    simpa using Nat.le_total first.order second.order
  have perm : course.inOrder.Perm course.lessons := List.mergeSort_perm _ _
  refine ⟨perm, ?_, ?_⟩
  · simpa [CourseModule.inOrder] using List.pairwise_mergeSort transitive total course.lessons
  · intro position
    let level (lessons : List Lesson) := lessons.filter (·.order == position)
    -- Lessons in one position are sorted as they are, so sorting all keeps them in this order.
    have flat : (level course.lessons).Pairwise fun first second =>
        decide (first.order ≤ second.order) = true := by
      refine List.pairwise_of_forall_mem_list fun first here second there => ?_
      have first : first.order = position := by simpa using List.of_mem_filter here
      have second : second.order = position := by simpa using List.of_mem_filter there
      simp [first, second]
    have kept : (level course.lessons).Sublist course.inOrder :=
      List.sublist_mergeSort transitive total flat List.filter_sublist
    have among : (level course.lessons).Sublist (level course.inOrder) := by
      simpa [level, List.filter_filter] using kept.filter (·.order == position)
    exact (among.eq_of_length (perm.filter _).length_eq.symm).symm

namespace Curriculum

/-- Modules and lessons have ids of their own, and a lesson says in which module it is. -/
structure WellKept (curriculum : Curriculum) : Prop where
  modules : (curriculum.modules.map CourseModule.id).Nodup
  lessons : (curriculum.lessons.map Lesson.id).Nodup
  housed : ∀ course ∈ curriculum.modules, ∀ lesson ∈ course.lessons,
    lesson.moduleId = course.id

/-- From a lesson on, these lessons come one after the other, and then no more. -/
inductive Walk (curriculum : Curriculum) : Lesson → List Lesson → Prop where
  | last {lesson : Lesson} :
      curriculum.nextLesson? lesson.id = none → Walk curriculum lesson [lesson]
  | further {lesson next : Lesson} {rest : List Lesson} :
      curriculum.nextLesson? lesson.id = some next → Walk curriculum next rest →
        Walk curriculum lesson (lesson :: rest)

variable {curriculum : Curriculum} {course : CourseModule} {lesson : Lesson} {index : Nat}

theorem WellKept.ids_inOrder_nodup (kept : curriculum.WellKept)
    (listed : course ∈ curriculum.modules) : (course.inOrder.map Lesson.id).Nodup := by
  have different := kept.lessons
  rw [Curriculum.lessons, List.map_flatMap, List.nodup_flatMap] at different
  exact (course.inPosition_inOrder.perm.map Lesson.id).nodup_iff.mpr (different.1 course listed)

theorem WellKept.position?_eq (kept : curriculum.WellKept) (listed : course ∈ curriculum.modules)
    (here : course.inOrder[index]? = some lesson) :
    curriculum.position? lesson.id = some (course.inOrder, index) := by
  have taught : lesson ∈ course.lessons :=
    course.inPosition_inOrder.perm.mem_iff.mp (List.mem_of_getElem? here)
  have known : curriculum.lesson? lesson.id = some lesson :=
    find?_of_mem kept.lessons (List.mem_flatMap.mpr ⟨course, listed, taught⟩)
  have house : curriculum.module? lesson.moduleId = some course := by
    rw [kept.housed course listed lesson taught]
    exact find?_of_mem kept.modules listed
  have place := findIdx?_of_getElem? (kept.ids_inOrder_nodup listed) here
  simp [position?, known, house, place]

theorem of_position?_eq {id : String} {ordered : List Lesson}
    (found : curriculum.position? id = some (ordered, index)) :
    ∃ course ∈ curriculum.modules, ordered = course.inOrder ∧
      ∃ lesson, course.inOrder[index]? = some lesson ∧ lesson.id = id := by
  simp only [position?, Option.bind_eq_bind, Option.bind_eq_some_iff, Option.pure_def,
    Option.some.injEq, Prod.mk.injEq] at found
  obtain ⟨lesson, _, course, house, place, stands, rfl, rfl⟩ := found
  obtain ⟨bound, same, _⟩ := List.findIdx?_eq_some_iff_getElem.mp stands
  exact ⟨course, List.mem_of_find?_eq_some house, rfl, _, List.getElem?_eq_getElem bound,
    beq_iff_eq.mp same⟩

theorem WellKept.nextLesson?_eq (kept : curriculum.WellKept) (listed : course ∈ curriculum.modules)
    (here : course.inOrder[index]? = some lesson) :
    curriculum.nextLesson? lesson.id = course.inOrder[index + 1]? := by
  rw [nextLesson?, kept.position?_eq listed here]
  rfl

theorem WellKept.previousLesson?_eq (kept : curriculum.WellKept)
    (listed : course ∈ curriculum.modules) (here : course.inOrder[index]? = some lesson) :
    curriculum.previousLesson? lesson.id =
      if index = 0 then none else course.inOrder[index - 1]? := by
  rw [previousLesson?, kept.position?_eq listed here]
  rfl

theorem exists_of_nextLesson? {id : String} {later : Lesson}
    (found : curriculum.nextLesson? id = some later) :
    ∃ course ∈ curriculum.modules, ∃ index lesson, course.inOrder[index]? = some lesson ∧
      lesson.id = id ∧ course.inOrder[index + 1]? = some later := by
  obtain ⟨⟨ordered, index⟩, place, next⟩ := Option.bind_eq_some_iff.mp found
  obtain ⟨course, listed, rfl, lesson, here, named⟩ := of_position?_eq place
  exact ⟨course, listed, index, lesson, here, named, next⟩

theorem exists_of_previousLesson? {id : String} {earlier : Lesson}
    (found : curriculum.previousLesson? id = some earlier) :
    ∃ course ∈ curriculum.modules, ∃ index lesson, course.inOrder[index + 1]? = some lesson ∧
      lesson.id = id ∧ course.inOrder[index]? = some earlier := by
  obtain ⟨⟨ordered, index⟩, place, before⟩ := Option.bind_eq_some_iff.mp found
  obtain ⟨course, listed, rfl, lesson, here, named⟩ := of_position?_eq place
  cases index with
  | zero => simp at before
  | succ index => exact ⟨course, listed, index, lesson, here, named, by simpa using before⟩

/-- The `second` lesson is next after the `first` just if the `first` is previous to it. -/
theorem WellKept.next_iff_previous (kept : curriculum.WellKept) (first second : String) :
    (curriculum.nextLesson? first).map Lesson.id = some second ↔
      (curriculum.previousLesson? second).map Lesson.id = some first := by
  constructor
  · intro next
    obtain ⟨later, found, rfl⟩ := Option.map_eq_some_iff.mp next
    obtain ⟨course, listed, index, lesson, here, rfl, there⟩ := exists_of_nextLesson? found
    rw [kept.previousLesson?_eq listed there, if_neg (Nat.succ_ne_zero index), Nat.add_sub_cancel,
      here]
    rfl
  · intro previous
    obtain ⟨earlier, found, rfl⟩ := Option.map_eq_some_iff.mp previous
    obtain ⟨course, listed, index, lesson, here, rfl, there⟩ := exists_of_previousLesson? found
    rw [kept.nextLesson?_eq listed there, here]
    rfl

theorem WellKept.nextLesson?_of_drop (kept : curriculum.WellKept)
    (listed : course ∈ curriculum.modules) {rest : List Lesson}
    (remaining : course.inOrder.drop index = lesson :: rest) :
    curriculum.nextLesson? lesson.id = rest.head? := by
  have here : course.inOrder[index]? = some lesson := by
    rw [← List.head?_drop, remaining, List.head?_cons]
  rw [kept.nextLesson?_eq listed here, ← List.head?_drop, ← List.tail_drop, remaining,
    List.tail_cons]

theorem WellKept.walk_drop (kept : curriculum.WellKept) (listed : course ∈ curriculum.modules)
    {rest : List Lesson} (remaining : course.inOrder.drop index = lesson :: rest) :
    curriculum.Walk lesson (lesson :: rest) := by
  have next := kept.nextLesson?_of_drop listed remaining
  induction rest generalizing index lesson with
  | nil => exact .last next
  | cons second others ih =>
      have following : course.inOrder.drop (index + 1) = second :: others := by
        rw [← List.tail_drop, remaining, List.tail_cons]
      exact .further next (ih following (kept.nextLesson?_of_drop listed following))

/-- In a well-kept curriculum, going on to the next lesson and going back to the previous one undo
each other, and neither leaves the module.  From the first lesson of a module on, one walks through
all its lessons, each once, in the order of their positions and of their listing. -/
theorem lessons_walked_in_order (curriculum : Curriculum) (kept : curriculum.WellKept) :
    (∀ first second : String,
      (curriculum.nextLesson? first).map Lesson.id = some second ↔
        (curriculum.previousLesson? second).map Lesson.id = some first) ∧
      (∀ course ∈ curriculum.modules, ∀ lesson ∈ course.lessons, ∀ other,
        curriculum.nextLesson? lesson.id = some other ∨
          curriculum.previousLesson? lesson.id = some other → other ∈ course.lessons) ∧
      ∀ course ∈ curriculum.modules,
        InPosition course.lessons course.inOrder ∧ (course.inOrder.map Lesson.id).Nodup ∧
          ∀ first ∈ course.inOrder.head?, curriculum.Walk first course.inOrder := by
  refine ⟨kept.next_iff_previous, ?_, ?_⟩
  · intro course listed lesson taught other reached
    have perm := course.inPosition_inOrder.perm
    obtain ⟨index, here⟩ := List.getElem?_of_mem (perm.mem_iff.mpr taught)
    rw [← perm.mem_iff]
    rcases reached with next | previous
    · rw [kept.nextLesson?_eq listed here] at next
      exact List.mem_of_getElem? next
    · rw [kept.previousLesson?_eq listed here] at previous
      split at previous
      · cases previous
      · exact List.mem_of_getElem? previous
  · intro course listed
    refine ⟨course.inPosition_inOrder, kept.ids_inOrder_nodup listed, ?_⟩
    intro first leads
    obtain ⟨rest, whole⟩ := List.head?_eq_some_iff.mp leads
    have remaining : course.inOrder.drop 0 = first :: rest := by rw [List.drop_zero, whole]
    rw [whole]
    exact kept.walk_drop listed remaining

/-- Two modules, the first with its lessons listed out of order and two of them in one position. -/
theorem lessons_walked_in_order_shuffled :
    let late : Lesson := { pointing with order := 7 }
    let early : Lesson := { meetKo with order := 2 }
    let alsoEarly : Lesson := { classifying with order := 2 }
    let curriculum : Curriculum :=
      ⟨[{ foundations with lessons := [late, early, alsoEarly] }, presentTense], []⟩
    curriculum.WellKept ∧ curriculum.Walk early [early, alsoEarly, late] := by
  intro late early alsoEarly curriculum
  have kept : curriculum.WellKept := ⟨by decide, by decide, by decide⟩
  obtain ⟨-, -, walks⟩ := lessons_walked_in_order curriculum kept
  obtain ⟨-, -, walk⟩ := walks _ List.mem_cons_self
  have ordered : ({ foundations with lessons := [late, early, alsoEarly] } : CourseModule).inOrder =
      [early, alsoEarly, late] := by
    simp [CourseModule.inOrder, List.mergeSort, List.MergeSort.Internal.splitInTwo, late, early,
      alsoEarly]
  rw [ordered] at walk
  exact ⟨kept, walk early rfl⟩

end Curriculum

end SentenceCards
