import SentenceCards.Text.Blank

/-!
# Joined words

Words and runs of words are joined with a space between neighbours.  Joining runs that have been
joined already makes no difference, and what has been joined can be told apart again when it is
known how many spaces each part has (`eq_of_joined_eq`).
-/

namespace SentenceCards.Text

theorem toList_joined_cons_cons (first second : String) (rest : List String) :
    (" ".intercalate (first :: second :: rest)).toList =
      first.toList ++ ' ' :: (" ".intercalate (second :: rest)).toList := by
  rw [String.intercalate_cons_of_ne_nil (by simp)]
  simp

theorem joined_flatten {runs : List (List String)} (nonempty : ∀ run ∈ runs, run ≠ []) :
    " ".intercalate (runs.map (" ".intercalate ·)) = " ".intercalate runs.flatten := by
  induction runs with
  | nil => rfl
  | cons run rest ih =>
      have later := ih fun other member => nonempty other (List.mem_cons_of_mem _ member)
      cases rest with
      | nil => simp
      | cons following others =>
          have filled : (following :: others).flatten ≠ [] := by
            intro empty
            have following := nonempty following (by simp)
            simp_all
          have joined :=
            String.intercalate_append_of_ne_nil (s := " ") (nonempty run (by simp)) filled
          rw [List.map_cons, String.intercalate_cons_of_ne_nil (by simp), later, ← joined]
          rfl

/-- Joining adds nothing but spaces. -/
theorem countP_joined {p : Char → Bool} (noSpace : p ' ' = false) (pieces : List String) :
    (" ".intercalate pieces).toList.countP p = (pieces.map String.toList).flatten.countP p := by
  induction pieces with
  | nil => rfl
  | cons piece rest ih =>
      cases rest with
      | nil => simp
      | cons following others =>
          rw [toList_joined_cons_cons, List.countP_append, List.countP_cons, ih]
          simp [noSpace]

/-- The text before a space is known from the number of its spaces. -/
theorem eq_of_append_space_eq {first second firstRest secondRest : List Char}
    (same : first ++ ' ' :: firstRest = second ++ ' ' :: secondRest)
    (spaces : first.count ' ' = second.count ' ') :
    first = second ∧ firstRest = secondRest := by
  have equal : first = second := by
    -- If one text went on after the other, it would go on with a space and have one more of them.
    rcases List.append_eq_append_iff.mp same with ⟨more, longer, rest⟩ | ⟨more, longer, rest⟩
    · cases more with
      | nil => simpa using longer.symm
      | cons c more =>
          obtain rfl : ' ' = c := by simpa using (List.cons.inj rest).1
          rw [longer, List.count_append, List.count_cons_self] at spaces
          omega
    · cases more with
      | nil => simpa using longer
      | cons c more =>
          obtain rfl : ' ' = c := by simpa using (List.cons.inj rest).1
          rw [longer, List.count_append, List.count_cons_self] at spaces
          omega
  subst equal
  exact ⟨rfl, by simpa using same⟩

theorem eq_of_intercalate_eq {first second : List (List Char)}
    (spaces : first.map (List.count ' ') = second.map (List.count ' '))
    (same : [' '].intercalate first = [' '].intercalate second) : first = second := by
  induction first generalizing second with
  | nil =>
      cases second with
      | nil => rfl
      | cons => simp at spaces
  | cons piece rest ih =>
      cases second with
      | nil => simp at spaces
      | cons other others =>
          obtain ⟨spacesHere, spacesLater⟩ := List.cons.inj spaces
          cases rest with
          | nil =>
              obtain rfl : others = [] := by simpa using spacesLater.symm
              simpa using same
          | cons following rest =>
              cases others with
              | nil => simp at spacesLater
              | cons otherFollowing others =>
                  rw [List.intercalate_cons_cons, List.intercalate_cons_cons] at same
                  obtain ⟨here, later⟩ := eq_of_append_space_eq (by simpa using same) spacesHere
                  rw [here, ih spacesLater later]

/-- Joined parts are told apart by the number of their spaces. -/
theorem eq_of_joined_eq {first second : List String}
    (spaces : first.map (·.toList.count ' ') = second.map (·.toList.count ' '))
    (same : " ".intercalate first = " ".intercalate second) : first = second := by
  have lists : first.map String.toList = second.map String.toList := by
    apply eq_of_intercalate_eq
    · simpa [Function.comp_def] using spaces
    · have same := congrArg String.toList same
      simpa using same
  exact (List.map_inj_right fun _ _ => String.toList_injective).mp lists

end SentenceCards.Text
