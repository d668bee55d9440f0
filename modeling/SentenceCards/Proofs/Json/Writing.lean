import Mathlib.Tactic.SplitIfs
import SentenceCards.Json.Writer
import SentenceCards.Proofs.Json.Grammar

/-!
# What is written is JSON

What is written of a value is a text for this value (`Plain.denotes_written`), and so it is if the
items of an array are set apart by white space (`denotes_array`).  It has no control characters
(`Plain.shows`).
-/

namespace SentenceCards.Json

theorem hexValue?_hexDigit : ∀ n < 16, hexValue? (Text.hexDigit n) = some n := by decide

theorem isUnit_hexDigits {n : Nat} (small : n < 0x10000) : IsUnit (Text.hexDigits 4 n) n := by
  have digits : Text.hexDigits 4 n = [Text.hexDigit (n / 16 / 16 / 16 % 16),
      Text.hexDigit (n / 16 / 16 % 16), Text.hexDigit (n / 16 % 16), Text.hexDigit (n % 16)] := rfl
  have value : ((n / 16 / 16 / 16 % 16 * 16 + n / 16 / 16 % 16) * 16 + n / 16 % 16) * 16 + n % 16 =
      n := by omega
  have read (k : Nat) : hexValue? (Text.hexDigit (k % 16)) = some (k % 16) :=
    hexValue?_hexDigit _ (Nat.mod_lt k (by decide))
  have unit := IsUnit.digits (read (n / 16 / 16 / 16)) (read (n / 16 / 16)) (read (n / 16)) (read n)
  rwa [value, ← digits] at unit

theorem standsFor_writtenChar (c : Char) : StandsFor (writtenChar c) c := by
  unfold writtenChar
  split_ifs with backslash quote newline returned tab control
  · rw [backslash]
    exact .short (by decide)
  · rw [quote]
    exact .short (by decide)
  · rw [newline]
    exact .short (by decide)
  · rw [returned]
    exact .short (by decide)
  · rw [tab]
    exact .short (by decide)
  · have low : c.toNat < 0xA0 := by
      simp only [isControl, Bool.or_eq_true, Bool.and_eq_true, decide_eq_true_eq] at control
      omega
    have stands := StandsFor.unit (isUnit_hexDigits (Nat.lt_trans low (by decide)))
      (.inl (Nat.lt_trans low (by decide)))
    rwa [Char.ofNat_toNat] at stands
  · have printable : 0x20 ≤ c.toNat := by
      simp only [isControl, Bool.or_eq_true, Bool.and_eq_true, decide_eq_true_eq, not_or] at control
      omega
    exact .plain quote backslash printable

theorem inside_flatMap_writtenChar (text : List Char) : Inside (text.flatMap writtenChar) text := by
  induction text with
  | nil => exact .nil
  | cons c rest ih =>
      rw [List.flatMap_cons]
      exact .cons (standsFor_writtenChar c) ih

theorem numeral_decimalDigits (n : Nat) : Numeral (decimalDigits n) n := by
  fun_induction decimalDigits n with
  | case1 n small => exact .digit small
  | case2 n large ih =>
      have positive : 0 < n / 10 := by omega
      have numeral := ih.further positive (Nat.mod_lt n (show 0 < 10 by decide))
      rwa [Nat.div_add_mod] at numeral

/-- No number in the value is kept as it was written. -/
inductive Plain : Json → Prop where
  | null : Plain .null
  | bool (value : Bool) : Plain (.bool value)
  | integer (n : Int) : Plain (.integer n)
  | string (text : String) : Plain (.string text)
  | array {items : List Json} : (∀ item ∈ items, Plain item) → Plain (.array items)
  | object {members : List (String × Json)} : (∀ member ∈ members, Plain member.2) →
      Plain (.object members)

theorem isNumber_writtenInteger (n : Int) : IsNumber (writtenInteger n) (.integer n) := by
  cases n with
  | ofNat n => exact .natural (numeral_decimalDigits n)
  | negSucc n => exact .negative (numeral_decimalDigits (n + 1)) (Nat.succ_pos n)

/-- Items may be set apart by white space before each of them and after the last one. -/
theorem denotes_joined {before after : List Char} (opening : IsGap before) (closing : IsGap after)
    {item : Json} {rest : List Json}
    (each : ∀ value ∈ item :: rest, Denotes (written value) (.value value)) :
    Denotes (before ++ ((',' :: before).intercalate ((item :: rest).map written) ++ after))
      (.items (item :: rest)) := by
  obtain ⟨first, others⟩ := List.forall_mem_cons.mp each
  induction rest generalizing item with
  | nil =>
      have last := Denotes.lastItem (.spaced opening first closing)
      simpa using last
  | cons next rest ih =>
      obtain ⟨second, later⟩ := List.forall_mem_cons.mp others
      have more := Denotes.item (.spaced opening first isGap_nil) (ih others second later)
      simpa using more

theorem denotes_array {before after : List Char} (opening : IsGap before) (closing : IsGap after)
    {items : List Json} (each : ∀ value ∈ items, Denotes (written value) (.value value)) :
    Denotes
      ('[' :: (before ++ ((',' :: before).intercalate (items.map written) ++ after) ++ [']']))
      (.value (.array items)) := by
  cases items with
  | nil =>
      apply Denotes.noItems
      intro c member
      rcases List.mem_append.mp member with opened | closed
      · exact opening c opened
      · exact closing c closed
  | cons item rest => exact .array (denotes_joined opening closing each)

theorem writtenItems_eq (items : List Json) :
    writtenItems items = [','].intercalate (items.map written) ++ [']'] := by
  cases items with
  | nil => rfl
  | cons item rest =>
      rw [writtenItems]
      induction rest generalizing item with
      | nil => simp [writtenMoreItems]
      | cons next rest ih => simp [writtenMoreItems, ih]

theorem denotes_member (key : String) {value : Json}
    (denotes : Denotes (written value) (.value value)) :
    Denotes (writtenString key ++ ':' :: written value) (.member key value) := by
  have member := Denotes.member isGap_nil (inside_flatMap_writtenChar key.toList) isGap_nil
    denotes.unspaced
  simpa [writtenString] using member

theorem writtenMembers_eq (members : List (String × Json)) :
    writtenMembers members =
      [','].intercalate
        (members.map fun member => writtenString member.1 ++ ':' :: written member.2) ++ ['}'] := by
  cases members with
  | nil => rfl
  | cons member rest =>
      rw [writtenMembers]
      induction rest generalizing member with
      | nil => simp [writtenMoreMembers]
      | cons next rest ih => simp [writtenMoreMembers, ih]

theorem denotes_members {member : String × Json} {rest : List (String × Json)}
    (each : ∀ entry ∈ member :: rest, Denotes (written entry.2) (.value entry.2)) :
    Denotes
      ([','].intercalate
        ((member :: rest).map fun entry => writtenString entry.1 ++ ':' :: written entry.2))
      (.members (member :: rest)) := by
  obtain ⟨first, others⟩ := List.forall_mem_cons.mp each
  induction rest generalizing member with
  | nil =>
      have last := Denotes.lastMember (denotes_member member.1 first)
      simpa using last
  | cons next rest ih =>
      obtain ⟨second, later⟩ := List.forall_mem_cons.mp others
      have more := Denotes.moreMembers (denotes_member member.1 first)
        (ih others second later)
      simpa using more

theorem Plain.denotes_written {value : Json} (plain : Plain value) :
    Denotes (written value) (.value value) := by
  induction plain with
  | null => exact .null
  | bool value => cases value with
    | true => exact .yes
    | false => exact .no
  | integer n => exact .number (isNumber_writtenInteger n)
  | string text => exact .string (inside_flatMap_writtenChar text.toList)
  | @array items _ each =>
      have array := denotes_array isGap_nil isGap_nil each
      rw [written, writtenItems_eq]
      simpa using array
  | @object members _ each =>
      rw [written, writtenMembers_eq]
      cases members with
      | nil => exact .noMembers isGap_nil
      | cons member rest => exact .object (denotes_members each)

section Controls

theorem forall_mem_intercalate {α : Type} {P : α → Prop} {separator : List α}
    {parts : List (List α)} (between : ∀ c ∈ separator, P c) (each : ∀ part ∈ parts, ∀ c ∈ part, P c) :
    ∀ c ∈ separator.intercalate parts, P c := by
  induction parts with
  | nil => exact fun c member => absurd member List.not_mem_nil
  | cons part rest ih =>
      obtain ⟨here, later⟩ := List.forall_mem_cons.mp each
      cases rest with
      | nil => simpa using here
      | cons next rest =>
          rw [List.intercalate_cons_cons, List.forall_mem_append, List.forall_mem_append]
          exact ⟨⟨here, between⟩, ih later⟩

/-- There are no control characters in the text. -/
def Shows (text : List Char) : Prop := ∀ c ∈ text, isControl c = false

theorem shows_of_all {text : List Char} (all : text.all (!isControl ·) = true) : Shows text := by
  intro c member
  have shown := List.all_eq_true.mp all c member
  simpa using shown

theorem Shows.append {front back : List Char} (one : Shows front) (other : Shows back) :
    Shows (front ++ back) :=
  List.forall_mem_append.mpr ⟨one, other⟩

theorem Shows.cons {c : Char} {text : List Char} (one : isControl c = false) (other : Shows text) :
    Shows (c :: text) :=
  List.forall_mem_cons.mpr ⟨one, other⟩

theorem shows_singleton {c : Char} (one : isControl c = false) : Shows [c] :=
  List.forall_mem_singleton.mpr one

theorem shows_hexDigits (width n : Nat) : Shows (Text.hexDigits width n) := by
  have digits : ∀ k < 16, isControl (Text.hexDigit k) = false := by decide
  induction width generalizing n with
  | zero => exact List.forall_mem_nil _
  | succ width ih =>
      exact (ih (n / 16)).append (shows_singleton (digits (n % 16) (Nat.mod_lt n (by decide))))

theorem shows_decimalDigits (n : Nat) : Shows (decimalDigits n) := by
  have digits : ∀ k < 10, isControl (Char.ofNat (k + 48)) = false := by decide
  fun_induction decimalDigits n with
  | case1 n small => exact shows_singleton (digits n small)
  | case2 n large ih =>
      exact ih.append (shows_singleton (digits (n % 10) (Nat.mod_lt n (by decide))))

theorem shows_writtenChar (c : Char) : Shows (writtenChar c) := by
  unfold writtenChar
  split_ifs with backslash quote newline returned tab control
  · exact shows_of_all rfl
  · exact shows_of_all rfl
  · exact shows_of_all rfl
  · exact shows_of_all rfl
  · exact shows_of_all rfl
  · exact .cons rfl (.cons rfl (shows_hexDigits 4 c.toNat))
  · exact shows_singleton (Bool.eq_false_iff.mpr control)

theorem shows_writtenString (text : String) : Shows (writtenString text) := by
  have inside : Shows (text.toList.flatMap writtenChar) := by
    intro c member
    obtain ⟨origin, _, here⟩ := List.mem_flatMap.mp member
    exact shows_writtenChar origin c here
  exact .cons rfl (inside.append (shows_singleton rfl))

theorem shows_writtenInteger (n : Int) : Shows (writtenInteger n) := by
  cases n with
  | ofNat n => exact shows_decimalDigits n
  | negSucc n => exact .cons rfl (shows_decimalDigits (n + 1))

theorem Plain.shows {value : Json} (plain : Plain value) : Shows (written value) := by
  have comma : Shows [','] := shows_singleton rfl
  induction plain with
  | null => exact shows_of_all rfl
  | bool value =>
      cases value with
      | true => exact shows_of_all rfl
      | false => exact shows_of_all rfl
  | integer n => exact shows_writtenInteger n
  | string text => exact shows_writtenString text
  | @array items _ each =>
      have joined := forall_mem_intercalate comma (List.forall_mem_map.mpr each)
      rw [written, writtenItems_eq]
      exact .cons rfl (Shows.append joined (shows_singleton rfl))
  | @object members _ each =>
      have joined : Shows ([','].intercalate
          (members.map fun entry => writtenString entry.1 ++ ':' :: written entry.2)) := by
        apply forall_mem_intercalate comma
        rw [List.forall_mem_map]
        intro entry inside
        exact (shows_writtenString entry.1).append (.cons rfl (each entry inside))
      rw [written, writtenMembers_eq]
      exact .cons rfl (joined.append (shows_singleton rfl))

end Controls

end SentenceCards.Json
