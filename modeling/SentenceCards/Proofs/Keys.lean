import Mathlib.Data.List.Nodup

/-!
# Items and their keys

When different items have different keys, an item is found by its key, and so is its place among
the items.  Different keys divide the items that have them.
-/

namespace SentenceCards

section Found

variable {α : Type} {key : α → String} {items : List α} {item : α}

theorem find?_of_mem (different : (items.map key).Nodup) (listed : item ∈ items) :
    items.find? (key · == key item) = some item := by
  cases found : items.find? (key · == key item) with
  | none =>
      have other := List.find?_eq_none.mp found item listed
      simp at other
  | some first =>
      have member : first ∈ items := List.mem_of_find?_eq_some found
      have same : key first = key item := by simpa using List.find?_some found
      rw [List.inj_on_of_nodup_map different member listed same]

theorem findIdx?_of_getElem? (different : (items.map key).Nodup) {index : Nat}
    (here : items[index]? = some item) : items.findIdx? (key · == key item) = some index := by
  obtain ⟨bound, rfl⟩ := List.getElem?_eq_some_iff.mp here
  rw [List.findIdx?_eq_some_iff_getElem]
  refine ⟨bound, beq_iff_eq.mpr rfl, ?_⟩
  intro earlier before same
  have apart := List.pairwise_iff_getElem.mp different earlier index
    (by simpa using Nat.lt_trans before bound) (by simpa using bound) before
  simp only [List.getElem_map] at apart
  exact apart (beq_iff_eq.mp same)

end Found

/-- Collected key by key, every item with one of the keys is there once. -/
theorem flatMap_filter_perm {α κ : Type} [BEq κ] [LawfulBEq κ] {keys : List κ}
    (different : keys.Nodup) (key : α → κ) (items : List α) :
    (keys.flatMap fun wanted => items.filter (key · == wanted)).Perm
      (items.filter (key · ∈ keys)) := by
  induction keys with
  | nil => simp
  | cons first rest ih =>
      rw [List.nodup_cons] at different
      obtain ⟨absent, different⟩ := different
      let named := items.filter (key · ∈ first :: rest)
      have here : named.filter (key · == first) = items.filter (key · == first) := by
        rw [List.filter_filter]
        exact List.filter_congr fun item _ => by
          by_cases same : key item = first <;> simp [same]
      have later : named.filter (! key · == first) = items.filter (key · ∈ rest) := by
        rw [List.filter_filter]
        exact List.filter_congr fun item _ => by
          by_cases same : key item = first <;> simp [same, absent]
      rw [List.flatMap_cons, ← here]
      refine ((ih different).append_left _).trans ?_
      rw [← later]
      exact List.filter_append_perm _ named

end SentenceCards
