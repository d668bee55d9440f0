import Mathlib.Data.List.FinRange
import Mathlib.Logic.Function.Basic
import SentenceCards.Proofs.Slots

/-!
# Slots as a partial map

A row of slots binds some of the indices below its size to cards.  Whatever is placed, taken and
cleared, the row goes the way of a partial map, and what is seen of it is seen of the map
(`Slots.acts_as_partial_map`).  An operation on one slot reads and changes no other
(`Slots.perform_local`), so operations on different slots can be exchanged.
-/

namespace SentenceCards

namespace Slots

/-- What can be done with slots. -/
inductive Operation where
  | place (index : Nat) (card : Card)
  | take (index : Nat)
  | clear
  deriving DecidableEq, Inhabited

/-- What an operation gives. -/
inductive Answer where
  /-- Nothing but the changed slots. -/
  | done
  | card (card : Card)
  | cards (cards : List Card)
  deriving DecidableEq, Inhabited

/-- The slot that an operation is about. -/
def Operation.index? : Operation → Option Nat
  | .place index _ | .take index => some index
  | .clear => none

/-- The answer to an operation, and the slots afterwards. -/
def perform (slots : Slots) : Operation → Except Failure Answer × Slots
  | .place index card =>
      match slots.place index card with
      | .ok filled => (.ok .done, filled)
      | .error failure => (.error failure, slots)
  | .take index =>
      match slots.take index with
      | .ok (card, vacated) => (.ok (.card card), vacated)
      | .error failure => (.error failure, slots)
  | .clear => (.ok (.cards slots.clear.1), slots.clear.2)

/-- Carries out operations in order, failing ones among them. -/
def performAll (slots : Slots) : List Operation → List (Except Failure Answer) × Slots
  | [] => ([], slots)
  | operation :: rest =>
      let (answer, later) := slots.perform operation
      let (answers, last) := later.performAll rest
      (answer :: answers, last)

end Slots

/-- A partial map from the indices below `count` to cards. -/
abbrev Bindings (count : Nat) := Fin count → Option Card

namespace Bindings

variable {count : Nat}

/-- Nothing is bound. -/
def unbound (count : Nat) : Bindings count := fun _ => none

/-- The bound cards in the order of their indices. -/
def cards (map : Bindings count) : List Card := (List.finRange count).filterMap map

/-- How a partial map answers an operation, and what it is afterwards. -/
inductive Acts (map : Bindings count) :
    Slots.Operation → Except Failure Slots.Answer → Bindings count → Prop where
  | placed {index : Fin count} {card : Card} :
      map index = none →
        Acts map (.place index card) (.ok .done) (Function.update map index (some card))
  | occupied {index : Fin count} {card other : Card} :
      map index = some other →
        Acts map (.place index card) (.error (Cause.slotOccupied index).failure) map
  | taken {index : Fin count} {card : Card} :
      map index = some card →
        Acts map (.take index) (.ok (.card card)) (Function.update map index none)
  | vacant {index : Fin count} :
      map index = none → Acts map (.take index) (.error (Cause.slotEmpty index).failure) map
  | beyond {operation : Slots.Operation} {index : Nat} :
      operation.index? = some index → count ≤ index →
        Acts map operation (.error (Cause.slotOutOfRange index count).failure) map
  | cleared : Acts map .clear (.ok (.cards map.cards)) (unbound count)

/-- The answers to operations that are carried out one after the other, and the last map. -/
inductive Runs : Bindings count → List Slots.Operation → List (Except Failure Slots.Answer) →
    Bindings count → Prop where
  | nil {map : Bindings count} : Runs map [] [] map
  | cons {map next last : Bindings count} {operation : Slots.Operation}
      {rest : List Slots.Operation} {answer : Except Failure Slots.Answer}
      {answers : List (Except Failure Slots.Answer)} :
      map.Acts operation answer next → Runs next rest answers last →
        Runs map (operation :: rest) (answer :: answers) last

/-- The row of slots that holds what is bound. -/
def slots (map : Bindings count) : Slots := ⟨List.ofFn map⟩

theorem slots_injective : Function.Injective (slots : Bindings count → Slots) := by
  intro map other same
  exact List.ofFn_injective (congrArg Slots.cells same)

theorem size_slots (map : Bindings count) : map.slots.size = count := by
  simp [slots, Slots.size]

theorem getElem?_cells_slots (map : Bindings count) (index : Fin count) :
    map.slots.cells[index.val]? = some (map index) := by
  simp [slots]

theorem slots_unbound (count : Nat) : (unbound count).slots = Slots.empty count :=
  congrArg Slots.mk (List.ofFn_const count none)

theorem placed_slots (map : Bindings count) : map.slots.placed = map.cards := by
  simp [slots, Slots.placed, cards, List.ofFn_eq_map, List.filterMap_map]

theorem slots_update (map : Bindings count) (index : Fin count) (content : Option Card) :
    slots (Function.update map index content) = ⟨map.slots.cells.set index content⟩ := by
  refine congrArg Slots.mk (List.ext_getElem (by simp [slots]) fun place _ _ => ?_)
  simp [slots, Function.update_apply, List.getElem_set, Fin.ext_iff, eq_comm]

/-- Some rule applies to every operation. -/
theorem exists_acts (map : Bindings count) (operation : Slots.Operation) :
    ∃ answer later, map.Acts operation answer later := by
  cases here : operation.index? with
  | none =>
      cases operation with
      | clear => exact ⟨_, _, .cleared⟩
      | place | take => cases here
  | some index =>
      rcases Nat.lt_or_ge index count with inside | outside
      · obtain ⟨index, rfl⟩ : ∃ place : Fin count, place.val = index := ⟨⟨index, inside⟩, rfl⟩
        cases operation with
        | place slot card =>
            obtain rfl : slot = index := Option.some.inj here
            cases content : map index with
            | none => exact ⟨_, _, .placed content⟩
            | some other => exact ⟨_, _, .occupied content⟩
        | take slot =>
            obtain rfl : slot = index := Option.some.inj here
            cases content : map index with
            | none => exact ⟨_, _, .vacant content⟩
            | some card => exact ⟨_, _, .taken content⟩
        | clear => cases here
      · exact ⟨_, _, .beyond here outside⟩

/-- The row goes the way of the map, whichever rule applies. -/
theorem Acts.perform_eq {map later : Bindings count} {operation : Slots.Operation}
    {answer : Except Failure Slots.Answer} (acts : map.Acts operation answer later) :
    map.slots.perform operation = (answer, later.slots) := by
  cases acts with
  | placed free =>
      simp [Slots.perform, Slots.place, getElem?_cells_slots, free, slots_update]
  | occupied filled => simp [Slots.perform, Slots.place, getElem?_cells_slots, filled]
  | taken filled =>
      simp [Slots.perform, Slots.take, getElem?_cells_slots, filled, slots_update]
  | vacant free => simp [Slots.perform, Slots.take, getElem?_cells_slots, free]
  | @beyond operation index here outside =>
      have absent : map.slots.cells[index]? = none := by simpa [slots] using outside
      cases operation with
      | place | take =>
          obtain rfl := Option.some.inj here
          simp [Slots.perform, Slots.place, Slots.take, absent, size_slots]
      | clear => cases here
  | cleared =>
      simp [Slots.perform, Slots.clear, placed_slots, slots_unbound, size_slots]

theorem acts_iff {map later : Bindings count} {operation : Slots.Operation}
    {answer : Except Failure Slots.Answer} :
    map.Acts operation answer later ↔
      map.slots.perform operation = (answer, later.slots) := by
  constructor
  · exact Acts.perform_eq
  · intro performed
    obtain ⟨found, next, acts⟩ := map.exists_acts operation
    obtain ⟨rfl, same⟩ := Prod.mk.inj (acts.perform_eq.symm.trans performed)
    rwa [← slots_injective same]

theorem exists_runs (map : Bindings count) (operations : List Slots.Operation) :
    ∃ answers last, map.Runs operations answers last ∧
      map.slots.performAll operations = (answers, last.slots) := by
  induction operations generalizing map with
  | nil => exact ⟨[], map, .nil, rfl⟩
  | cons operation rest ih =>
      obtain ⟨answer, next, acts⟩ := map.exists_acts operation
      obtain ⟨answers, last, runs, performed⟩ := ih next
      refine ⟨answer :: answers, last, .cons acts runs, ?_⟩
      simp only [Slots.performAll, acts.perform_eq, performed]

end Bindings

namespace Slots

section Views

/-- Cards fill the slots from the first one on just if the sentence so far begins with them. -/
theorem map_some_prefix_iff {cards : List Card} {cells : List (Option Card)} :
    cards.map some <+: cells ↔ cards <+: leading ⟨cells⟩ := by
  induction cells generalizing cards with
  | nil => simp [leading]
  | cons cell rest ih =>
      cases cards with
      | nil => simp
      | cons card others =>
          cases cell with
          | none => simp [leading, List.cons_prefix_cons]
          | some held => simpa [leading, List.cons_prefix_cons] using fun _ => ih

theorem complete?_eq (slots : Slots) :
    slots.complete? = if slots.isComplete then some slots.leading else none := by
  obtain ⟨cells⟩ := slots
  induction cells with
  | nil => rfl
  | cons cell rest ih =>
      cases cell with
      | none => rfl
      | some card =>
          simp only [complete?, isComplete, leading] at ih ⊢
          simp only [List.mapM_cons, ih]
          by_cases full : rest.all Option.isSome = true <;> simp [full]

/-- What is seen of a row of slots that holds what is bound in the map. -/
structure Shows {count : Nat} (slots : Slots) (map : Bindings count) : Prop where
  size : slots.size = count
  get? : ∀ index : Nat,
    slots.get? index = if inside : index < count then map ⟨index, inside⟩ else none
  /-- The sentence so far is the longest run of cards that starts in the first slot. -/
  leading : ∀ cards : List Card, cards.map some <+: List.ofFn map ↔ cards <+: slots.leading
  isComplete : slots.isComplete = true ↔ ∀ index, map index ≠ none
  complete? : slots.complete? = if slots.isComplete then some slots.leading else none

theorem shows_slots {count : Nat} (map : Bindings count) : map.slots.Shows map where
  size := map.size_slots
  get? := by
    intro index
    by_cases inside : index < count <;> simp [Slots.get?, Bindings.slots, inside]
  leading := fun _ => map_some_prefix_iff
  isComplete := by
    simp [isComplete_iff, Bindings.slots, Option.isSome_iff_ne_none]
  complete? := map.slots.complete?_eq

end Views

section Local

variable {first second : Operation} {index other : Nat}

theorem modify_eq_self_of_kept {cells : List (Option Card)} {change : Option Card → Option Card}
    (kept : ∀ cell, cells[index]? = some cell → change cell = cell) :
    cells.modify index change = cells := by
  refine List.ext_getElem? fun place => ?_
  rw [List.getElem?_modify]
  by_cases same : index = place
  · subst same
    cases content : cells[index]? with
    | none => rfl
    | some cell => simp [kept cell content]
  · simp [same]

/-- An operation on a slot is answered by the content of this slot, and it changes no other. -/
theorem perform_local (here : first.index? = some index) (count : Nat) :
    ∃ (answer : Option (Option Card) → Except Failure Answer) (leave : Option Card → Option Card),
      ∀ slots : Slots, slots.size = count →
        slots.perform first =
          (answer slots.cells[index]?, ⟨slots.cells.modify index leave⟩) := by
  cases first with
  | place slot card =>
      obtain rfl : slot = index := Option.some.inj here
      refine ⟨fun content => content.elim (.error (Cause.slotOutOfRange slot count).failure)
        fun cell => cell.elim (.ok .done) fun _ => .error (Cause.slotOccupied slot).failure,
        fun cell => cell.or (some card), ?_⟩
      rintro ⟨cells⟩ rfl
      rcases content : cells[slot]? with _ | _ | held
      · rw [modify_eq_self_of_kept (by simp [content])]
        simp [perform, place, content]
      · rw [List.modify_eq_set]
        simp [perform, place, content]
      · rw [modify_eq_self_of_kept (by simp [content])]
        simp [perform, place, content]
  | take slot =>
      obtain rfl : slot = index := Option.some.inj here
      refine ⟨fun content => content.elim (.error (Cause.slotOutOfRange slot count).failure)
        fun cell => cell.elim (.error (Cause.slotEmpty slot).failure) fun card => .ok (.card card),
        fun _ => none, ?_⟩
      rintro ⟨cells⟩ rfl
      rcases content : cells[slot]? with _ | _ | held
      · rw [modify_eq_self_of_kept (by simp [content])]
        simp [perform, take, content]
      · rw [modify_eq_self_of_kept (by simp [content])]
        simp [perform, take, content]
      · rw [List.modify_eq_set]
        simp [perform, take, content]
  | clear => cases here

theorem performAll_swap (here : first.index? = some index) (there : second.index? = some other)
    (apart : index ≠ other) (slots : Slots) :
    slots.performAll [second, first] =
      ((slots.performAll [first, second]).1.reverse, (slots.performAll [first, second]).2) := by
  obtain ⟨answer, leave, one⟩ := perform_local here slots.size
  obtain ⟨answerToo, leaveToo, two⟩ := perform_local there slots.size
  have kept (place : Nat) (change : Option Card → Option Card) :
      size ⟨slots.cells.modify place change⟩ = slots.size := List.length_modify _ _ _
  simp [performAll, one, two, kept, List.getElem?_modify_ne, apart, apart.symm,
    List.modify_modify_ne]

end Local

end Slots

end SentenceCards
