import Mathlib.Data.List.Basic
import Mathlib.Data.List.DropRight
import Mathlib.Data.List.TakeDrop
import SentenceCards.Proofs.Json.Grammar

/-!
# The grammar of JSON is read

Every text for a value is read as this value (`read?_of_isText`), so no text stands for two values
(`IsText.unique`).
-/

namespace SentenceCards.Json

section Strings

theorem IsUnit.reads {digits : List Char} {n : Nat} (unit : IsUnit digits n) (rest : List Char) :
    readUnit (digits ++ rest) = some (n, rest) := by
  cases unit with
  | digits first second third fourth => simp [readUnit, first, second, third, fourth]

theorem readEscape_short {letter c : Char} (listed : (letter, c) ∈ shortEscapes)
    (rest : List Char) : readEscape (letter :: rest) = some (c, rest) := by
  simp only [shortEscapes, List.mem_cons, Prod.mk.injEq, List.not_mem_nil, or_false] at listed
  rcases listed with same | same | same | same | same | same | same | same
  all_goals
    obtain ⟨rfl, rfl⟩ := same
    rfl

theorem readEscape_unit {digits : List Char} {n : Nat} (unit : IsUnit digits n)
    (alone : n < 0xD800 ∨ 0xE000 ≤ n) (rest : List Char) :
    readEscape ('u' :: (digits ++ rest)) = some (Char.ofNat n, rest) := by
  have high : ¬ (0xD800 ≤ n ∧ n < 0xDC00) := by omega
  have low : ¬ (0xDC00 ≤ n ∧ n < 0xE000) := by omega
  simp [readEscape, readEscapedUnit, unit.reads, high, low]

theorem readEscape_pair {first second : List Char} {high low : Nat} (one : IsUnit first high)
    (other : IsUnit second low) (isHigh : 0xD800 ≤ high ∧ high < 0xDC00)
    (isLow : 0xDC00 ≤ low ∧ low < 0xE000) (rest : List Char) :
    readEscape ('u' :: (first ++ '\\' :: 'u' :: (second ++ rest))) =
      some (Char.ofNat (0x10000 + (high - 0xD800) * 0x400 + (low - 0xDC00)), rest) := by
  simp [readEscape, readEscapedUnit, one.reads, other.reads, isHigh, isLow]

theorem readChars_escape {text rest : List Char} {c : Char}
    (escape : readEscape text = some (c, rest)) (steps : Nat) :
    readChars (steps + 1) ('\\' :: text) =
      (readChars steps rest).map fun (more, left) => (c :: more, left) := by
  rw [readChars, if_neg (by decide), if_pos rfl, escape]
  show (readChars steps rest >>= fun (more, left) => some (c :: more, left)) = _
  cases readChars steps rest <;> rfl

theorem StandsFor.reads {piece : List Char} {c : Char} (stands : StandsFor piece c) (steps : Nat)
    (rest : List Char) :
    readChars (steps + 1) (piece ++ rest) =
      (readChars steps rest).map fun (more, left) => (c :: more, left) := by
  cases stands with
  | plain quote backslash printable =>
      rw [List.singleton_append, readChars, if_neg quote, if_neg backslash,
        if_neg (Nat.not_lt.mpr printable)]
      cases readChars steps rest <;> rfl
  | short listed => exact readChars_escape (readEscape_short listed rest) steps
  | unit unit alone => exact readChars_escape (readEscape_unit unit alone rest) steps
  | @pair first second high low one other isHigh isLow =>
      have escape := readChars_escape (readEscape_pair one other isHigh isLow rest) steps
      simpa using escape

theorem StandsFor.ne_nil {piece : List Char} {c : Char} (stands : StandsFor piece c) :
    piece ≠ [] := by
  cases stands <;> exact List.cons_ne_nil _ _

theorem Inside.reads {text chars : List Char} (inside : Inside text chars) {steps : Nat}
    (enough : text.length < steps) (rest : List Char) :
    readChars steps (text ++ '"' :: rest) = some (chars, rest) := by
  induction inside generalizing steps with
  | nil =>
      obtain ⟨steps, rfl⟩ := Nat.exists_eq_succ_of_ne_zero (Nat.ne_zero_of_lt enough)
      rw [List.nil_append, readChars, if_pos rfl]
  | @cons piece text more c stands inside ih =>
      obtain ⟨steps, rfl⟩ := Nat.exists_eq_succ_of_ne_zero (Nat.ne_zero_of_lt enough)
      have begun := List.length_pos_iff.mpr stands.ne_nil
      rw [List.length_append] at enough
      rw [List.append_assoc, stands.reads, ih (by omega)]
      rfl

theorem Inside.readString {text : List Char} {content : String}
    (inside : Inside text content.toList) (rest : List Char) :
    readString (text ++ '"' :: rest) = some (content, rest) := by
  have enough : text.length < (text ++ '"' :: rest).length + 1 := by
    rw [List.length_append]
    omega
  rw [Json.readString, inside.reads enough, Option.map_some]
  simp only [String.ofList_toList]

end Strings

section Numbers

/-- The text does not go on with a digit. -/
def EndsDigits (rest : List Char) : Prop := ∀ c ∈ rest.head?, c.isDigit = false

theorem readDigits_append {digits rest : List Char} (each : ∀ c ∈ digits, c.isDigit = true)
    (ends : EndsDigits rest) : readDigits (digits ++ rest) = (digits, rest) := by
  have front : rest.takeWhile Char.isDigit = [] ∧ rest.dropWhile Char.isDigit = rest := by
    cases rest with
    | nil => exact ⟨rfl, rfl⟩
    | cons c rest => simp [ends c rfl]
  rw [readDigits, List.span_eq_takeWhile_dropWhile, List.takeWhile_append_of_pos each,
    List.dropWhile_append_of_pos each, front.1, front.2, List.append_nil]

theorem readDigits?_append (read : Nat) (front back : List Char) :
    Text.readDigits? read (front ++ back) =
      (Text.readDigits? read front).bind (Text.readDigits? · back) := by
  induction front generalizing read with
  | nil => rfl
  | cons c front ih =>
      simp only [List.cons_append, Text.readDigits?]
      cases Text.digitValue? c with
      | none => rfl
      | some value => exact ih (10 * read + value)

theorem isDigit_digit : ∀ n < 10, (digit n).isDigit = true := by decide

theorem digitValue?_digit : ∀ n < 10, Text.digitValue? (digit n) = some n := by decide

theorem digit_eq_zero : ∀ n < 10, digit n = '0' → n = 0 := by decide

/-- How the reader sees a numeral. -/
structure ReadNumeral (digits : List Char) (n : Nat) : Prop where
  nonempty : digits ≠ []
  each : ∀ c ∈ digits, c.isDigit = true
  value : Text.readDigits? 0 digits = some n
  leads : digits.head? = some '0' → n = 0 ∧ digits = ['0']

theorem Numeral.reads {digits : List Char} {n : Nat} (numeral : Numeral digits n) :
    ReadNumeral digits n := by
  induction numeral with
  | @digit n small =>
      refine ⟨List.cons_ne_nil _ _, ?_, ?_, ?_⟩
      · simpa using isDigit_digit n small
      · simp [Text.readDigits?, digitValue?_digit n small]
      · intro zero
        have same : Json.digit n = '0' := Option.some.inj zero
        exact ⟨digit_eq_zero n small same, by rw [same]⟩
  | @further front n last numeral positive small ih =>
      obtain ⟨nonempty, digits, value, leads⟩ := ih
      refine ⟨by simp, ?_, ?_, ?_⟩
      · simpa [or_imp, forall_and] using ⟨digits, isDigit_digit last small⟩
      · rw [readDigits?_append, value]
        simp [Text.readDigits?, digitValue?_digit last small]
      · intro zero
        rw [List.head?_append_of_ne_nil front nonempty] at zero
        exact absurd (leads zero).1 (Nat.ne_of_gt positive)

/-- The text does not go on with anything that could belong to a number. -/
def EndsNumber (rest : List Char) : Prop :=
  ∀ c ∈ rest.head?, c.isDigit = false ∧ c ≠ '.' ∧ c ≠ 'e' ∧ c ≠ 'E'

theorem IsFraction.reads {fraction rest : List Char} (isFraction : IsFraction fraction)
    (ends : ∀ c ∈ rest.head?, c.isDigit = false ∧ c ≠ '.') :
    readFraction (fraction ++ rest) = some (fraction, rest) := by
  cases isFraction with
  | absent =>
      cases rest with
      | nil => rfl
      | cons c rest =>
          have other : c ≠ '.' := (ends c rfl).2
          simp [readFraction, other]
  | @present digits nonempty each =>
      have read := readDigits_append each fun c head => (ends c head).1
      simp [readFraction, read, nonempty]

theorem readSign_append {sign digits : List Char} (isSign : sign ∈ [[], ['+'], ['-']])
    (nonempty : digits ≠ []) (each : ∀ c ∈ digits, c.isDigit = true) (rest : List Char) :
    readSign (sign ++ (digits ++ rest)) = (sign, digits ++ rest) := by
  simp only [List.mem_cons, List.not_mem_nil, or_false] at isSign
  rcases isSign with rfl | rfl | rfl
  · obtain ⟨c, others, rfl⟩ := List.exists_cons_of_ne_nil nonempty
    have isDigit := each c List.mem_cons_self
    unfold readSign
    split
    · next same =>
        cases same
        cases isDigit
    · next same =>
        cases same
        cases isDigit
    · rfl
  · rfl
  · rfl

theorem IsExponent.reads {exponent rest : List Char} (isExponent : IsExponent exponent)
    (ends : EndsNumber rest) : readExponent (exponent ++ rest) = some (exponent, rest) := by
  cases isExponent with
  | absent =>
      cases rest with
      | nil => rfl
      | cons c rest =>
          obtain ⟨_, _, small, capital⟩ := ends c rfl
          simp [readExponent, small, capital]
  | @present mark sign digits isMark isSign nonempty each =>
      have read := readDigits_append each fun c head => (ends c head).1
      rw [List.cons_append, List.append_assoc, readExponent, if_pos isMark,
        readSign_append isSign nonempty each]
      simp [read, nonempty]

theorem EndsNumber.exponent_append {exponent rest : List Char} (ends : EndsNumber rest)
    (isExponent : IsExponent exponent) :
    ∀ c ∈ (exponent ++ rest).head?, c.isDigit = false ∧ c ≠ '.' := by
  cases isExponent with
  | absent =>
      intro c head
      obtain ⟨digit, point, _, _⟩ := ends c head
      exact ⟨digit, point⟩
  | present isMark _ _ _ =>
      intro c head
      cases head
      rcases isMark with rfl | rfl <;> decide

theorem EndsNumber.fraction_append {fraction exponent rest : List Char} (ends : EndsNumber rest)
    (isFraction : IsFraction fraction) (isExponent : IsExponent exponent) :
    EndsDigits (fraction ++ (exponent ++ rest)) := by
  cases isFraction with
  | absent => exact fun c head => (ends.exponent_append isExponent c head).1
  | present _ _ =>
      intro c head
      cases head
      rfl

theorem Numeral.readUnsigned {digits fraction exponent rest : List Char} {n : Nat}
    (numeral : Numeral digits n) (isFraction : IsFraction fraction)
    (isExponent : IsExponent exponent) (ends : EndsNumber rest) (negative : Bool) :
    readUnsigned negative (digits ++ (fraction ++ (exponent ++ rest))) =
      if fraction = [] ∧ exponent = [] ∧ ¬ (negative = true ∧ n = 0) then
        some (.integer (if negative then -(n : Int) else n), rest)
      else
        some (.decimal (String.ofList
          ((if negative then ['-'] else []) ++ digits ++ fraction ++ exponent)), rest) := by
  obtain ⟨nonempty, each, value, leads⟩ := numeral.reads
  have front := readDigits_append each (ends.fraction_append isFraction isExponent)
  have unpadded : ¬ (digits.head? = some '0' ∧ digits ≠ ['0']) := by
    rintro ⟨zero, more⟩
    exact more (leads zero).2
  simp only [Json.readUnsigned, front, List.isEmpty_eq_false_iff.mpr nonempty, value,
    if_neg unpadded, isFraction.reads (ends.exponent_append isExponent), isExponent.reads ends,
    List.isEmpty_iff, Bool.false_eq_true, if_false, Option.bind_eq_bind, Option.bind_some,
    Option.pure_def]

theorem Numeral.begins {digits : List Char} {n : Nat} (numeral : Numeral digits n) :
    ∃ c rest, digits = c :: rest ∧ c.isDigit = true := by
  obtain ⟨c, rest, same⟩ := List.exists_cons_of_ne_nil numeral.reads.nonempty
  exact ⟨c, rest, same, numeral.reads.each c (by simp [same])⟩

theorem Numeral.readNumber {digits fraction exponent rest : List Char} {n : Nat}
    (numeral : Numeral digits n) (isFraction : IsFraction fraction)
    (isExponent : IsExponent exponent) (ends : EndsNumber rest) {sign : List Char}
    (isSign : sign = [] ∨ sign = ['-']) :
    readNumber (sign ++ digits ++ fraction ++ exponent ++ rest) =
      if fraction = [] ∧ exponent = [] ∧ ¬ (sign = ['-'] ∧ n = 0) then
        some (.integer (if sign = ['-'] then -(n : Int) else n), rest)
      else some (.decimal (String.ofList (sign ++ digits ++ fraction ++ exponent)), rest) := by
  simp only [List.append_assoc]
  rcases isSign with rfl | rfl
  · obtain ⟨c, others, rfl, isDigit⟩ := numeral.begins
    have unsigned := numeral.readUnsigned isFraction isExponent ends false
    have read : Json.readNumber (c :: others ++ (fraction ++ (exponent ++ rest))) =
        Json.readUnsigned false (c :: others ++ (fraction ++ (exponent ++ rest))) := by
      unfold Json.readNumber
      split
      · next same =>
          cases same
          cases isDigit
      · rfl
    rw [List.nil_append, read, unsigned]
    simp
  · have unsigned := numeral.readUnsigned isFraction isExponent ends true
    rw [List.singleton_append]
    show Json.readUnsigned true _ = _
    rw [unsigned]
    simp

theorem IsNumber.reads {text rest : List Char} {value : Json} (isNumber : IsNumber text value)
    (ends : EndsNumber rest) : readNumber (text ++ rest) = some (value, rest) := by
  cases isNumber with
  | natural numeral =>
      have read := numeral.readNumber .absent .absent ends (.inl rfl)
      simpa using read
  | @negative digits n numeral positive =>
      have read := numeral.readNumber .absent .absent ends (.inr rfl)
      simpa [Nat.ne_of_gt positive] using read
  | decimal isSign numeral isFraction isExponent other =>
      rw [numeral.readNumber isFraction isExponent ends isSign, if_neg]
      rintro ⟨noFraction, noExponent, notZero⟩
      rcases other with fraction | exponent | zero
      · exact fraction noFraction
      · exact exponent noExponent
      · exact notZero zero

theorem IsNumber.begins {text : List Char} {value : Json} (isNumber : IsNumber text value) :
    ∃ c rest, text = c :: rest ∧ (c = '-' ∨ c.isDigit = true) := by
  cases isNumber with
  | natural numeral =>
      obtain ⟨c, rest, same, isDigit⟩ := numeral.begins
      exact ⟨c, rest, same, .inr isDigit⟩
  | negative numeral positive => exact ⟨'-', _, rfl, .inl rfl⟩
  | decimal isSign numeral isFraction isExponent other =>
      obtain ⟨c, rest, rfl, isDigit⟩ := numeral.begins
      rcases isSign with rfl | rfl
      · exact ⟨c, _, rfl, .inr isDigit⟩
      · exact ⟨'-', _, rfl, .inl rfl⟩

end Numbers

section Values

theorem skipSpace_gap {gap : List Char} (isGap : IsGap gap) (text : List Char) :
    skipSpace (gap ++ text) = skipSpace text :=
  List.dropWhile_append_of_pos isGap

theorem skipSpace_cons {c : Char} (visible : isSpace c = false) (rest : List Char) :
    skipSpace (c :: rest) = c :: rest := by
  rw [skipSpace, List.dropWhile_cons_of_neg (by simp [visible])]

theorem skipSpace_skipSpace (text : List Char) : skipSpace (skipSpace text) = skipSpace text :=
  List.dropWhile_idempotent _ text

theorem readValue_skipSpace (steps : Nat) (text : List Char) :
    readValue steps (skipSpace text) = readValue steps text := by
  cases steps with
  | zero => rfl
  | succ steps => rw [readValue, readValue, skipSpace_skipSpace]

theorem readItems_skipSpace (steps : Nat) (text : List Char) :
    readItems steps (skipSpace text) = readItems steps text := by
  cases steps with
  | zero => rfl
  | succ steps => rw [readItems, readItems, readValue_skipSpace]

theorem readMembers_skipSpace (steps : Nat) (text : List Char) :
    readMembers steps (skipSpace text) = readMembers steps text := by
  cases steps with
  | zero => rfl
  | succ steps => rw [readMembers, readMembers, skipSpace_skipSpace]

/-- White space, and what values other than numbers begin with. -/
def otherBeginnings : List Char := [' ', '\t', '\n', '\r', '"', '[', '\x7b', 'n', 't', 'f']

theorem not_mem_otherBeginnings {c : Char} (begins : c = '-' ∨ c.isDigit = true) :
    c ∉ otherBeginnings := by
  have others : ∀ d ∈ otherBeginnings, d ≠ '-' ∧ d.isDigit = false := by simp [otherBeginnings]
  intro listed
  obtain ⟨sign, digit⟩ := others c listed
  rcases begins with same | isDigit
  · exact sign same
  · exact absurd isDigit (by simp [digit])

theorem readValue_number {c : Char} (begins : c = '-' ∨ c.isDigit = true) (steps : Nat)
    (rest : List Char) : readValue (steps + 1) (c :: rest) = readNumber (c :: rest) := by
  have other := not_mem_otherBeginnings begins
  simp only [otherBeginnings, List.mem_cons, List.not_mem_nil, or_false, not_or] at other
  have visible : isSpace c = false := by simp [isSpace, other]
  rw [readValue, skipSpace_cons visible]
  simp [other]

/-- The text is at its end, or goes on with what closes a value in it. -/
def Closes (rest : List Char) : Prop := ∀ c ∈ rest.head?, c = ',' ∨ c = ']' ∨ c = '\x7d'

/-- The text is at its end, or goes on with white space or with what closes a value in it. -/
def Follows (rest : List Char) : Prop :=
  ∀ c ∈ rest.head?, isSpace c = true ∨ c = ',' ∨ c = ']' ∨ c = '\x7d'

theorem Closes.skipSpace {rest : List Char} (closes : Closes rest) : skipSpace rest = rest := by
  cases rest with
  | nil => rfl
  | cons c rest =>
      apply skipSpace_cons
      rcases closes c rfl with rfl | rfl | rfl <;> rfl

theorem Closes.gap_append {gap rest : List Char} (closes : Closes rest) (isGap : IsGap gap) :
    Follows (gap ++ rest) := by
  cases gap with
  | nil => exact fun c head => .inr (closes c head)
  | cons d gap =>
      intro c head
      cases head
      exact .inl (isGap d List.mem_cons_self)

theorem Follows.endsNumber {rest : List Char} (follows : Follows rest) : EndsNumber rest := by
  intro c head
  rcases follows c head with space | rfl | rfl | rfl
  · simp only [isSpace, Bool.or_eq_true, beq_iff_eq] at space
    rcases space with ((rfl | rfl) | rfl) | rfl <;> decide
  all_goals decide

theorem readWord_append (word rest : List Char) : readWord word (word ++ rest) = some rest := by
  induction word with
  | nil => rfl
  | cons c word ih => rw [List.cons_append, readWord, if_pos rfl, ih]

/-- The closing bracket is no item. -/
theorem readItems_bracket (steps : Nat) (rest : List Char) :
    readItems steps (']' :: rest) = none := by
  match steps with
  | 0 => rfl
  | 1 => rfl
  | steps + 2 => rfl

/-- The closing brace is no member. -/
theorem readMembers_brace (steps : Nat) (rest : List Char) :
    readMembers steps ('\x7d' :: rest) = none := by
  cases steps <;> rfl

theorem readArray_items {steps : Nat} {text rest : List Char} {items : List Json}
    (read : readItems steps text = some (items, rest)) :
    readArray (steps + 1) text = some (.array items, rest) := by
  rw [← readItems_skipSpace] at read
  rw [readArray]
  split
  · next closed =>
      rw [closed, readItems_bracket] at read
      cases read
  · rw [read]
    rfl

theorem readObject_members {steps : Nat} {text rest : List Char} {members : List (String × Json)}
    (read : readMembers steps text = some (members, rest)) :
    readObject (steps + 1) text = some (.object members, rest) := by
  rw [← readMembers_skipSpace] at read
  rw [readObject]
  split
  · next closed =>
      rw [closed, readMembers_brace] at read
      cases read
  · rw [read]
    rfl

/-- The part is read from the text.  Two steps for each character are enough. -/
def ReadBack (text : List Char) : Part → Prop
  | .value value => ∀ (steps : Nat) {rest : List Char}, 2 * text.length ≤ steps → Follows rest →
      readValue steps (text ++ rest) = some (value, rest)
  | .spaced value => ∀ (steps : Nat) {rest : List Char}, 2 * text.length ≤ steps → Closes rest →
      ∃ left, readValue steps (text ++ rest) = some (value, left) ∧ skipSpace left = rest
  | .items items => ∀ (steps : Nat) (rest : List Char), 2 * text.length < steps →
      readItems steps (text ++ ']' :: rest) = some (items, rest)
  | .member key value => ∀ (steps : Nat) {rest : List Char}, 2 * text.length ≤ steps →
      Closes rest → ∃ behindQuote behindKey behindColon left,
        skipSpace (text ++ rest) = '"' :: behindQuote ∧
        readString behindQuote = some (key, behindKey) ∧
        skipSpace behindKey = ':' :: behindColon ∧
        readValue steps behindColon = some (value, left) ∧ skipSpace left = rest
  | .members members => ∀ (steps : Nat) (rest : List Char), 2 * text.length < steps →
      readMembers steps (text ++ '\x7d' :: rest) = some (members, rest)

theorem readBack_cons {c : Char} {text : List Char} {value : Json}
    (read : ∀ {steps : Nat} {rest : List Char}, 2 * text.length ≤ steps → Follows rest →
      readValue (steps + 2) (c :: (text ++ rest)) = some (value, rest)) :
    ReadBack (c :: text) (.value value) := by
  intro steps rest enough follows
  rw [List.length_cons] at enough
  obtain ⟨steps, rfl⟩ := Nat.exists_eq_add_of_le' (show 2 ≤ steps by omega)
  exact read (by omega) follows

theorem readBack_word {c : Char} {word : List Char} {value : Json}
    (read : ∀ steps text, readValue (steps + 1) (c :: text) =
      (readWord word text).map fun rest => (value, rest)) :
    ReadBack (c :: word) (.value value) := by
  apply readBack_cons
  intro steps rest _ _
  rw [read, readWord_append, Option.map_some]

theorem readBack_number {text : List Char} {value : Json} (isNumber : IsNumber text value) :
    ReadBack text (.value value) := by
  obtain ⟨c, others, rfl, begins⟩ := isNumber.begins
  apply readBack_cons
  intro steps rest _ follows
  rw [readValue_number begins]
  exact isNumber.reads follows.endsNumber

theorem readBack_string {text : List Char} {content : String}
    (inside : Inside text content.toList) :
    ReadBack ('"' :: (text ++ ['"'])) (.value (.string content)) := by
  apply readBack_cons
  intro steps rest _ _
  have read := inside.readString rest
  rw [List.append_assoc, List.singleton_append]
  show (readString (text ++ '"' :: rest)).map _ = _
  rw [read, Option.map_some]

theorem readBack_noItems {gap : List Char} (isGap : IsGap gap) :
    ReadBack ('[' :: (gap ++ [']'])) (.value (.array [])) := by
  apply readBack_cons
  intro steps rest _ _
  show readArray (steps + 1) (gap ++ [']'] ++ rest) = _
  rw [readArray, List.append_assoc, skipSpace_gap isGap]
  rfl

theorem readBack_array {text : List Char} {items : List Json}
    (inner : ReadBack text (.items items)) :
    ReadBack ('[' :: (text ++ [']'])) (.value (.array items)) := by
  apply readBack_cons
  intro steps rest enough _
  rw [List.length_append, List.length_singleton] at enough
  rw [List.append_assoc, List.singleton_append]
  exact readArray_items (inner _ rest (by omega))

theorem readBack_noMembers {gap : List Char} (isGap : IsGap gap) :
    ReadBack ('\x7b' :: (gap ++ ['\x7d'])) (.value (.object [])) := by
  apply readBack_cons
  intro steps rest _ _
  show readObject (steps + 1) (gap ++ ['\x7d'] ++ rest) = _
  rw [readObject, List.append_assoc, skipSpace_gap isGap]
  rfl

theorem readBack_object {text : List Char} {members : List (String × Json)}
    (inner : ReadBack text (.members members)) :
    ReadBack ('\x7b' :: (text ++ ['\x7d'])) (.value (.object members)) := by
  apply readBack_cons
  intro steps rest enough _
  rw [List.length_append, List.length_singleton] at enough
  rw [List.append_assoc, List.singleton_append]
  exact readObject_members (inner _ rest (by omega))

theorem readBack_spaced {before text after : List Char} {value : Json} (opening : IsGap before)
    (inner : ReadBack text (.value value)) (closing : IsGap after) :
    ReadBack (before ++ text ++ after) (.spaced value) := by
  intro steps rest enough closes
  simp only [List.length_append] at enough
  refine ⟨after ++ rest, ?_, ?_⟩
  · rw [List.append_assoc, List.append_assoc, ← readValue_skipSpace, skipSpace_gap opening,
      readValue_skipSpace]
    exact inner steps (by omega) (closes.gap_append closing)
  · rw [skipSpace_gap closing, closes.skipSpace]

theorem closes_cons {c : Char} (closing : c = ',' ∨ c = ']' ∨ c = '\x7d') (rest : List Char) :
    Closes (c :: rest) := by
  intro d head
  cases head
  exact closing

theorem readBack_lastItem {text : List Char} {item : Json} (inner : ReadBack text (.spaced item)) :
    ReadBack text (.items [item]) := by
  intro steps rest enough
  obtain ⟨steps, rfl⟩ := Nat.exists_eq_add_of_le' (Nat.one_le_of_lt enough)
  obtain ⟨left, read, closed⟩ :=
    inner steps (by omega) (closes_cons (.inr (.inl rfl)) rest)
  simp [readItems, read, closed]

theorem readBack_item {text others : List Char} {item : Json} {items : List Json}
    (inner : ReadBack text (.spaced item)) (more : ReadBack others (.items items)) :
    ReadBack (text ++ ',' :: others) (.items (item :: items)) := by
  intro steps rest enough
  rw [List.length_append, List.length_cons] at enough
  obtain ⟨steps, rfl⟩ := Nat.exists_eq_add_of_le' (Nat.one_le_of_lt enough)
  obtain ⟨left, read, closed⟩ :=
    inner steps (by omega) (closes_cons (.inl rfl) (others ++ ']' :: rest))
  have remaining := more steps rest (by omega)
  simp [readItems, read, closed, remaining]

theorem readBack_member {before text after others : List Char} {key : String} {value : Json}
    (opening : IsGap before) (inside : Inside text key.toList) (between : IsGap after)
    (inner : ReadBack others (.spaced value)) :
    ReadBack (before ++ '"' :: (text ++ '"' :: (after ++ ':' :: others))) (.member key value) := by
  intro steps rest enough closes
  simp only [List.length_append, List.length_cons] at enough
  obtain ⟨left, read, closed⟩ := inner steps (by omega) closes
  refine ⟨text ++ '"' :: (after ++ ':' :: (others ++ rest)), after ++ ':' :: (others ++ rest),
    others ++ rest, left, ?_, inside.readString _, ?_, read, closed⟩
  · rw [List.append_assoc, skipSpace_gap opening]
    simp [skipSpace_cons (show isSpace '"' = false from rfl)]
  · rw [skipSpace_gap between, skipSpace_cons rfl]

theorem readBack_lastMember {text : List Char} {key : String} {value : Json}
    (inner : ReadBack text (.member key value)) : ReadBack text (.members [(key, value)]) := by
  intro steps rest enough
  obtain ⟨steps, rfl⟩ := Nat.exists_eq_add_of_le' (Nat.one_le_of_lt enough)
  obtain ⟨_, _, _, left, quoted, readKey, colon, read, closed⟩ :=
    inner steps (by omega) (closes_cons (.inr (.inr rfl)) rest)
  simp [readMembers, quoted, readKey, colon, read, closed]

theorem readBack_moreMembers {text others : List Char} {key : String} {value : Json}
    {members : List (String × Json)} (inner : ReadBack text (.member key value))
    (more : ReadBack others (.members members)) :
    ReadBack (text ++ ',' :: others) (.members ((key, value) :: members)) := by
  intro steps rest enough
  rw [List.length_append, List.length_cons] at enough
  obtain ⟨steps, rfl⟩ := Nat.exists_eq_add_of_le' (Nat.one_le_of_lt enough)
  obtain ⟨_, _, _, left, quoted, readKey, colon, read, closed⟩ :=
    inner steps (by omega) (closes_cons (.inl rfl) (others ++ '\x7d' :: rest))
  have remaining := more steps rest (by omega)
  simp [readMembers, quoted, readKey, colon, read, closed, remaining]

theorem Denotes.readBack {text : List Char} {part : Part} (denotes : Denotes text part) :
    ReadBack text part := by
  induction denotes with
  | null => exact readBack_word fun _ _ => rfl
  | yes => exact readBack_word fun _ _ => rfl
  | no => exact readBack_word fun _ _ => rfl
  | number isNumber => exact readBack_number isNumber
  | string inside => exact readBack_string inside
  | noItems isGap => exact readBack_noItems isGap
  | array _ items => exact readBack_array items
  | noMembers isGap => exact readBack_noMembers isGap
  | object _ members => exact readBack_object members
  | spaced opening _ closing value => exact readBack_spaced opening value closing
  | lastItem _ item => exact readBack_lastItem item
  | item _ _ item items => exact readBack_item item items
  | member opening inside between _ value => exact readBack_member opening inside between value
  | lastMember _ member => exact readBack_lastMember member
  | moreMembers _ _ member members => exact readBack_moreMembers member members

end Values

theorem read?_of_isText {text : String} {value : Json} (isText : IsText text value) :
    read? text = some value := by
  have enough : 2 * text.toList.length ≤ 2 * text.toList.length + 2 := Nat.le_add_right _ _
  have ended : Closes [] := fun c head => absurd head (Option.not_mem_none c)
  obtain ⟨left, read, closed⟩ := isText.readBack _ enough ended
  rw [List.append_nil] at read
  simp [read?, read, closed]

theorem IsText.unique {text : String} {one other : Json} (isOne : IsText text one)
    (isOther : IsText text other) : one = other := by
  have read := read?_of_isText isOne
  rw [read?_of_isText isOther] at read
  exact (Option.some.inj read).symm

end SentenceCards.Json
