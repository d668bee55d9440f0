import SentenceCards.Text.Numeral

/-!
# What a numeral stands for

Reading a number accepts the decimal numerals, with or without a plus sign, and gives the number
that they denote (`readWord64?_eq_some_iff`).
-/

namespace SentenceCards.Text

/-- The text is a decimal numeral of the number: digits, with or without a plus sign in front. -/
def Denotes (text : List Char) (n : Nat) : Prop :=
  ∃ digits : List Char, digits ≠ [] ∧ (∀ c ∈ digits, c.isDigit = true) ∧
    (text = digits ∨ text = '+' :: digits) ∧ Nat.ofDigitChars 10 digits 0 = n

theorem digitValue?_eq (c : Char) :
    digitValue? c = if c.isDigit = true then some (c.toNat - '0'.toNat) else none := by
  have same : ('0' ≤ c ∧ c ≤ '9') ↔ c.isDigit = true := by simp [Char.isDigit, Char.le_def]
  simp only [digitValue?, same]
  rfl

theorem readDigits?_eq_some_iff {digits : List Char} {read n : Nat} :
    readDigits? read digits = some n ↔
      (∀ c ∈ digits, c.isDigit = true) ∧ Nat.ofDigitChars 10 digits read = n := by
  induction digits generalizing read with
  | nil => simp [readDigits?]
  | cons c rest ih =>
      by_cases digit : c.isDigit = true
      · simp [readDigits?, digitValue?_eq, digit, ih, Nat.ofDigitChars_cons]
      · simp [readDigits?, digitValue?_eq, digit]

theorem readNatural?_eq_some_iff {text : List Char} {n : Nat} :
    readNatural? text = some n ↔ Denotes text n := by
  constructor
  · intro read
    unfold readNatural? at read
    split at read
    · cases read
    · cases read
    · next digits nonempty =>
        obtain ⟨all, value⟩ := readDigits?_eq_some_iff.mp read
        exact ⟨digits, nonempty, all, .inr rfl, value⟩
    · next nonempty _ _ =>
        obtain ⟨all, value⟩ := readDigits?_eq_some_iff.mp read
        exact ⟨text, nonempty, all, .inl rfl, value⟩
  · rintro ⟨digits, nonempty, all, rfl | rfl, value⟩
    · have read := readDigits?_eq_some_iff.mpr ⟨all, value⟩
      unfold readNatural?
      -- A text of digits has no plus sign in front.
      split
      · exact absurd rfl nonempty
      · simp at all
      · simp at all
      · exact read
    · obtain ⟨c, rest, rfl⟩ := List.exists_cons_of_ne_nil nonempty
      exact readDigits?_eq_some_iff.mpr ⟨all, value⟩

theorem readWord64?_eq_some_iff {text : String} {n : Nat} :
    readWord64? text = some n ↔ Denotes text.toList n ∧ n < UInt64.size := by
  simp only [readWord64?, Option.filter_eq_some_iff, readNatural?_eq_some_iff, decide_eq_true_eq]

theorem Denotes.unique {text : List Char} {n m : Nat} (first : Denotes text n)
    (second : Denotes text m) : n = m :=
  Option.some.inj
    ((readNatural?_eq_some_iff.mpr first).symm.trans (readNatural?_eq_some_iff.mpr second))

end SentenceCards.Text
