import Mathlib.Data.List.Induction
import SentenceCards.MessagePack.Record
import SentenceCards.Proofs.MessagePack.Reading

/-!
# What readers find

A reader that succeeds has looked at no byte behind the ones that it took off the front, and what
it found is not too large to have been written: `Yields` says both of a reader.  So a reader that
takes all of some bytes cannot do with fewer of them (`Reads.refuses_front`).
-/

namespace SentenceCards.MessagePack

variable {α β δ : Type}

theorem exists_of_bind_ok {first : Reader α} {next : α → Reader β} {bytes rest : Bytes}
    {result : β} (read : (first >>= next) bytes = .ok (result, rest)) :
    ∃ value middle, first bytes = .ok (value, middle) ∧ next value middle = .ok (result, rest) := by
  change (first bytes >>= fun (value, middle) => next value middle) = .ok (result, rest) at read
  cases one : first bytes with
  | error fault =>
      rw [one] at read
      cases read
  | ok found =>
      rw [one] at read
      exact ⟨found.1, found.2, rfl, read⟩

/-- What the reader makes of some bytes satisfies `P`, and it also makes this of them when more
bytes follow, which it leaves. -/
def Yields (reader : Reader α) (P : α → Prop) : Prop :=
  ∀ bytes value rest, reader bytes = .ok (value, rest) →
    P value ∧ ∀ more, reader (bytes ++ more) = .ok (value, rest ++ more)

/-- The property of everything. -/
abbrev Any : α → Prop := fun _ => True

/-- Bytes that a reader takes to the last one are not read from a part at their front. -/
theorem Reads.refuses_front {reader : Reader α} {P : α → Prop} {bytes front : Bytes} {value : α}
    (reads : Reads reader bytes value) (yields : Yields reader P) (cut : front <+: bytes)
    (shorter : front ≠ bytes) : ∃ fault, reader front = .error fault := by
  cases ended : reader front with
  | error fault => exact ⟨fault, rfl⟩
  | ok found =>
      obtain ⟨missing, rfl⟩ := cut
      have whole := reads []
      rw [List.append_nil, (yields front found.1 found.2 ended).2 missing] at whole
      have left : found.2 ++ missing = [] := congrArg Prod.snd (Except.ok.inj whole)
      have nothing : missing = [] := (List.append_eq_nil_iff.mp left).2
      exact absurd (by rw [nothing, List.append_nil]) shorter

namespace Yields

variable {P : α → Prop} {Q : β → Prop}

theorem pure {value : α} (holds : P value) : Yields (pure value) P := by
  intro bytes found rest read
  cases read
  exact ⟨holds, fun _ => rfl⟩

theorem throw (fault : Fault) : Yields (throw fault : Reader α) P := by
  intro bytes found rest read
  cases read

theorem mono {reader : Reader α} {weaker : α → Prop} (yields : Yields reader P)
    (implies : ∀ value, P value → weaker value) : Yields reader weaker := by
  intro bytes value rest read
  obtain ⟨holds, further⟩ := yields bytes value rest read
  exact ⟨implies value holds, further⟩

theorem bind {first : Reader α} {next : α → Reader β} (one : Yields first P)
    (other : ∀ value, P value → Yields (next value) Q) : Yields (first >>= next) Q := by
  intro bytes result rest read
  obtain ⟨value, middle, front, back⟩ := exists_of_bind_ok read
  obtain ⟨found, further⟩ := one bytes value middle front
  obtain ⟨holds, last⟩ := other value found middle result rest back
  refine ⟨holds, ?_⟩
  intro more
  show (first (bytes ++ more) >>= fun (value, middle) => next value middle) = _
  rw [further more]
  exact last more

theorem result {reader : Reader α} {change : α → β} (yields : Yields reader P)
    (implies : ∀ value, P value → Q (change value)) :
    Yields (do return change (← reader)) Q :=
  yields.bind fun value holds => .pure (implies value holds)

theorem ite {condition : Prop} [Decidable condition] {yes no : Reader α} (one : Yields yes P)
    (other : Yields no P) : Yields (if condition then yes else no) P := by
  split
  · exact one
  · exact other

end Yields

section Heads

theorem splitAfter?_eq_some {count : Nat} {bytes front rest : Bytes}
    (split : splitAfter? count bytes = some (front, rest)) :
    front.length = count ∧ bytes = front ++ rest := by
  induction count generalizing bytes front with
  | zero =>
      cases split
      exact ⟨rfl, rfl⟩
  | succ count ih =>
      cases bytes with
      | nil => cases split
      | cons byte bytes =>
          obtain ⟨⟨others, left⟩, found, same⟩ := Option.map_eq_some_iff.mp split
          cases same
          obtain ⟨length, rfl⟩ := ih found
          exact ⟨congrArg (· + 1) length, rfl⟩

theorem yields_readBytes (fault : Fault) (count : Nat) :
    Yields (readBytes fault count) (·.length = count) := by
  intro bytes value rest read
  unfold readBytes at read
  split at read
  · next front left split =>
      cases read
      obtain ⟨rfl, rfl⟩ := splitAfter?_eq_some split
      refine ⟨rfl, ?_⟩
      intro more
      rw [List.append_assoc, readBytes, splitAfter?_append]
  · cases read

theorem ofBigEndian_lt (bytes : Bytes) : ofBigEndian bytes < 256 ^ bytes.length := by
  induction bytes using List.reverseRecOn with
  | nil => decide
  | append_singleton bytes byte ih =>
      have low := byte.toNat_lt
      rw [ofBigEndian_concat, List.length_append, List.length_singleton, Nat.pow_succ]
      omega

theorem yields_readNumber (width : Nat) : Yields (readNumber width) (· < 256 ^ width) := by
  apply (yields_readBytes .shortNumber width).result
  rintro bytes rfl
  exact ofBigEndian_lt bytes

theorem yields_readContent (length : Nat) : Yields (readContent length) (·.length = length) :=
  yields_readBytes .shortContent length

/-- The lengths and numbers of items after such a marker are below `2 ^ 32`. -/
def Marker.isNarrow : Marker → Bool
  | .text width | .binary width | .array width => width ≤ 4
  | .shortText length => length < 0x20
  | .shortArray count => count < 0x10
  | _ => true

theorem isNarrow_ofLongByte (byte : Nat) : (Marker.ofLongByte byte).isNarrow = true := by
  unfold Marker.ofLongByte
  split <;> rfl

theorem isNarrow_ofByte (byte : UInt8) : (Marker.ofByte byte).isNarrow = true := by
  simp only [Marker.ofByte]
  split_ifs with small map array text long
  · rfl
  · rfl
  · simp only [Marker.isNarrow, decide_eq_true_eq]
    omega
  · simp only [Marker.isNarrow, decide_eq_true_eq]
    omega
  · exact isNarrow_ofLongByte byte.toNat
  · rfl

theorem yields_readMarker : Yields readMarker (·.isNarrow = true) := by
  intro bytes value rest read
  cases bytes with
  | nil => cases read
  | cons byte bytes =>
      cases read
      exact ⟨isNarrow_ofByte byte, fun _ => rfl⟩

/-- No text has `2 ^ 32` bytes or more, and no array so many items. -/
def Head.Small : Head → Prop
  | .text bytes | .binary bytes => bytes.length < UInt32.size
  | .array count => count < UInt32.size
  | _ => True

theorem lt_size_of_width {width n : Nat} (narrow : width ≤ 4) (below : n < 256 ^ width) :
    n < UInt32.size :=
  Nat.lt_of_lt_of_le below (Nat.pow_le_pow_right (by decide) narrow)

theorem yields_readSized {width : Nat} {head : Bytes → Head} (narrow : width ≤ 4)
    (small : ∀ bytes : Bytes, bytes.length < UInt32.size → (head bytes).Small) :
    Yields (do return head (← readContent (← readNumber width))) Head.Small := by
  refine (yields_readNumber width).bind fun length below => ?_
  apply (yields_readContent length).result
  rintro bytes rfl
  exact small bytes (lt_size_of_width narrow below)

theorem yields_readHead {marker : Marker} (narrow : marker.isNarrow = true) :
    Yields marker.readHead Head.Small := by
  cases marker with
  | unused => exact .throw _
  | nil | bool | small | smallNegative | shortMap | fixedExtension => exact .pure trivial
  | unsigned width | signed width | float width | map width | extension width =>
      exact (yields_readNumber width).result fun _ _ => trivial
  | shortText length =>
      apply (yields_readContent length).result
      rintro bytes rfl
      exact Nat.lt_trans (of_decide_eq_true narrow) (by decide)
  | text width => exact yields_readSized (of_decide_eq_true narrow) fun _ small => small
  | binary width => exact yields_readSized (of_decide_eq_true narrow) fun _ small => small
  | shortArray count =>
      exact .pure (Nat.lt_trans (of_decide_eq_true narrow) (show 0x10 < UInt32.size by decide))
  | array width =>
      apply (yields_readNumber width).result
      intro count below
      exact lt_size_of_width (of_decide_eq_true narrow) below

/-- A reader that begins with a whole head. -/
theorem yields_withHead {next : Head → Reader α} {P : α → Prop}
    (further : ∀ head, head.Small → Yields (next head) P) :
    Yields (do next (← (← readMarker).readHead)) P :=
  yields_readMarker.bind fun _ narrow => (yields_readHead narrow).bind further

end Heads

section Repetition

theorem yields_readTimes {read : Reader α} {P : α → Prop} (yields : Yields read P) (count : Nat) :
    Yields (readTimes read count) fun items => items.length = count ∧ ∀ item ∈ items, P item := by
  induction count with
  | zero => exact .pure ⟨rfl, fun _ member => absurd member List.not_mem_nil⟩
  | succ count ih =>
      refine yields.bind fun item holds => ih.result ?_
      rintro others ⟨rfl, rest⟩
      exact ⟨rfl, List.forall_mem_cons.mpr ⟨holds, rest⟩⟩

theorem yields_mapM {read : β → Reader α} {P : α → Prop} (yields : ∀ part, Yields (read part) P)
    (parts : List β) :
    Yields (parts.mapM read) fun items => items.length = parts.length ∧ ∀ item ∈ items, P item := by
  induction parts with
  | nil => exact .pure ⟨rfl, fun _ member => absurd member List.not_mem_nil⟩
  | cons part parts ih =>
      rw [List.mapM_cons]
      refine (yields part).bind fun item holds => ih.result ?_
      rintro others ⟨length, rest⟩
      exact ⟨congrArg (· + 1) length, List.forall_mem_cons.mpr ⟨holds, rest⟩⟩

theorem yields_skipTimes {skip : Reader Unit} (yields : Yields skip Any) (count : Nat) :
    Yields (skipTimes skip count) Any := by
  induction count with
  | zero => exact .pure trivial
  | succ count ih => exact yields.bind fun _ _ => ih

theorem yields_skipValue (room : Nat) : Yields (skipValue room) Any := by
  induction room with
  | zero =>
      refine yields_withHead fun head _ => ?_
      cases head with
      | array | map | extension => exact .throw _
      | nil | bool | natural | integer | float | text | binary => exact .pure trivial
  | succ room ih =>
      refine yields_withHead fun head _ => ?_
      cases head with
      | array count => exact yields_skipTimes ih count
      | map count => exact yields_skipTimes (ih.bind fun _ _ => ih) count
      | extension length =>
          exact (yields_readNumber 1).bind fun _ _ =>
            (yields_readContent length).bind fun _ _ => .pure trivial
      | nil | bool | natural | integer | float | text | binary => exact .pure trivial

end Repetition

/-- What the decoder makes of anything that can begin with the marker satisfies `P`. -/
def Decoder.Yields (decoder : Decoder α) (P : α → Prop) : Prop :=
  ∀ room marker, marker.isNarrow = true → MessagePack.Yields (decoder room marker) P

section Decoders

theorem Decoder.Yields.read {decoder : Decoder α} {P : α → Prop} (yields : decoder.Yields P)
    (room : Nat) : MessagePack.Yields (decoder.read room) P :=
  yields_readMarker.bind fun marker narrow => yields room marker narrow

theorem utf8ByteSize_of_text? {bytes : Bytes} {text : String} (found : bytes.text? = some text) :
    text.utf8ByteSize = bytes.length := by
  rw [← Bytes.length_ofText, Bytes.ofText_of_text? found]

theorem text?_of_ofUtf8 {bytes : Bytes} {text : String} (found : Text.ofUtf8 bytes = .ok text) :
    bytes.text? = some text := by
  unfold Text.ofUtf8 at found
  split at found
  · next other same =>
      cases found
      exact same
  · cases found

theorem yields_utf8 {bytes : Bytes} (small : bytes.length < UInt32.size) :
    Yields (utf8 bytes) (·.utf8ByteSize < UInt32.size) := by
  unfold utf8
  split
  · next text found =>
      apply Yields.pure
      rwa [utf8ByteSize_of_text? (text?_of_ofUtf8 found)]
  · exact .throw _

theorem yields_refuse {P : α → Prop} (expected : String) {head : Head} (small : head.Small) :
    Yields (head.refuse expected) P := by
  cases head with
  | text bytes => exact (yields_utf8 small).bind fun _ _ => .throw _
  | nil | bool | natural | integer | float | binary | array | map | extension => exact .throw _

theorem yields_inside {P : α → Prop} (room : Nat) {read : (room : Nat) → Reader α}
    (yields : ∀ room, Yields (read room) P) : Yields (inside room read) P := by
  cases room with
  | zero => exact .throw _
  | succ room => exact yields room

theorem yields_string : Decoder.string.Yields (·.utf8ByteSize < UInt32.size) := by
  intro room marker narrow
  refine (yields_readHead narrow).bind fun head small => ?_
  cases head with
  | text bytes => exact yields_utf8 small
  | binary bytes =>
      cases found : bytes.text? with
      | some text =>
          simp only [found]
          apply Yields.pure
          rw [utf8ByteSize_of_text? found]
          exact small
      | none =>
          simp only [found]
          exact .throw _
  | nil | bool | natural | integer | float | array | map | extension =>
      exact yields_refuse _ small

theorem yields_scalar {marker : Marker} (narrow : marker.isNarrow = true) :
    Yields (Decoder.scalar marker) Head.Small :=
  .ite (yields_readHead narrow) (.throw _)

theorem yields_bool : Decoder.bool.Yields Any := by
  intro room marker narrow
  refine (yields_scalar narrow).bind fun head small => ?_
  cases head with
  | bool value => exact .pure trivial
  | nil | natural | integer | float | text | binary | array | map | extension =>
      exact yields_refuse _ small

theorem yields_word32 : Decoder.word32.Yields Any := by
  intro room marker narrow
  refine (yields_scalar narrow).bind fun head small => ?_
  cases head with
  | natural n => exact .ite (.pure trivial) (.throw _)
  | integer n => exact .ite (.pure trivial) (.throw _)
  | nil | bool | float | text | binary | array | map | extension => exact yields_refuse _ small

theorem yields_list {item : Decoder α} {P : α → Prop} (yields : item.Yields P) :
    (Decoder.list item).Yields fun items =>
      items.length < UInt32.size ∧ ∀ item ∈ items, P item := by
  intro room marker narrow
  refine (yields_readHead narrow).bind fun head small => ?_
  cases head with
  | array count =>
      refine yields_inside room fun room => (yields_readTimes (yields.read room) count).mono ?_
      rintro items ⟨rfl, each⟩
      exact ⟨small, each⟩
  | binary bytes =>
      refine (yields_mapM (fun byte => yields room (.small byte.toNat) rfl) bytes).mono ?_
      rintro items ⟨length, each⟩
      exact ⟨length ▸ small, each⟩
  | nil | bool | natural | integer | float | text | map | extension =>
      exact yields_refuse _ small

theorem yields_choiceNamed (choices : List (String × α)) (name : String) :
    Yields (Decoder.choiceNamed choices name) Any := by
  unfold Decoder.choiceNamed
  split
  · exact .pure trivial
  · exact .throw _

theorem yields_choice (choices : List (String × α)) {marker : Marker}
    (narrow : marker.isNarrow = true) : Yields (Decoder.choice choices marker) Any := by
  refine (yields_readHead narrow).bind fun head small => ?_
  cases head with
  | natural n =>
      cases found : choices[n]? with
      | some choice =>
          simp only [found]
          exact .pure trivial
      | none =>
          simp only [found]
          exact .throw _
  | text bytes => exact (yields_utf8 small).bind fun name _ => yields_choiceNamed choices name
  | binary bytes => exact yields_choiceNamed choices _
  | nil | bool | integer | float | array | map | extension => exact yields_refuse _ small

theorem yields_readNil : Yields Decoder.readNil Any := by
  refine yields_readMarker.bind fun marker _ => ?_
  cases marker with
  | nil => exact .pure trivial
  | _ => exact .throw _

theorem yields_choiceInMap (choices : List (String × α)) (count : Nat) :
    Yields (Decoder.choiceInMap choices count) Any := by
  have entry : Yields (do
      let value ← Decoder.choice choices (← readMarker)
      Decoder.readNil
      return value) Any :=
    yields_readMarker.bind fun marker narrow =>
      (yields_choice choices narrow).bind fun _ _ => yields_readNil.bind fun _ _ => .pure trivial
  unfold Decoder.choiceInMap
  split
  · exact (Yields.throw (P := Any) _).bind fun _ _ => entry
  · exact entry

theorem yields_alternative (choices : List (String × α)) :
    (Decoder.alternative choices).Yields Any := by
  intro room marker narrow
  cases marker with
  | shortMap count => exact yields_choiceInMap choices count
  | map width =>
      exact (yields_readNumber width).bind fun count _ => yields_choiceInMap choices count
  | _ => exact yields_choice choices narrow

theorem yields_fill {name : String} {decoder : Decoder α} {get : δ → Option α} {set : δ → α → δ}
    {draft : δ} {P : α → Prop} {Draft : δ → Prop} (yields : decoder.Yields P)
    (sets : ∀ value, P value → Draft (set draft value)) :
    ((Field.of name decoder get set).fill draft).Yields Draft := by
  intro room marker narrow
  exact (yields room marker narrow).result sets

end Decoders

namespace RecordFormat

variable {format : RecordFormat δ α} {Draft : δ → Prop}

theorem yields_readKey (format : RecordFormat δ α) :
    Yields format.readKey fun field? => ∀ field ∈ field?, field ∈ format.fields := by
  refine yields_withHead fun head small => ?_
  cases head with
  | natural n => exact .pure fun field found => List.mem_of_getElem? found
  | text bytes => exact .pure fun field found => List.mem_of_find?_eq_some found
  | binary bytes => exact .pure fun field found => List.mem_of_find?_eq_some found
  | nil | bool | integer | float | array | map | extension => exact yields_refuse _ small

/-- A draft stays one of the kind when a field is read into it. -/
def Keeps (format : RecordFormat δ α) (Draft : δ → Prop) : Prop :=
  ∀ field ∈ format.fields, ∀ draft, Draft draft → (field.fill draft).Yields Draft

theorem yields_readEntries (keeps : format.Keeps Draft) (room count : Nat) {draft : δ}
    (holds : Draft draft) : Yields (format.readEntries room count draft) Draft := by
  induction count generalizing draft with
  | zero => exact .pure holds
  | succ count ih =>
      refine (yields_readKey format).bind fun field? listed => ?_
      cases field? with
      | none => exact (yields_skipValue room).bind fun _ _ => ih holds
      | some field =>
          have filled : Yields (do
              let marker ← readMarker
              format.readEntries room count (← field.fill draft room marker)) Draft :=
            yields_readMarker.bind fun marker narrow =>
              (keeps field (listed field rfl) draft holds room marker narrow).bind fun _ => ih
          show Yields (if _ then _ else _) _
          split
          · exact (Yields.throw (P := Any) _).bind fun _ _ => filled
          · exact filled

theorem yields_readItems (keeps : format.Keeps Draft) (room : Nat) {fields : List (Field δ)}
    (listed : fields ⊆ format.fields) (count : Nat) {draft : δ} (holds : Draft draft) :
    Yields (format.readItems room fields count draft) Draft := by
  induction fields generalizing count draft with
  | nil =>
      cases count with
      | zero => exact .pure holds
      | succ count => exact .throw _
  | cons field fields ih =>
      obtain ⟨member, others⟩ := List.cons_subset.mp listed
      cases count with
      | zero => exact .throw _
      | succ count =>
          exact yields_readMarker.bind fun marker narrow =>
            (keeps field member draft holds room marker narrow).bind fun _ => ih others count

theorem yields_ofBytes (keeps : format.Keeps Draft) (room : Nat) {fields : List (Field δ)}
    (listed : fields ⊆ format.fields) (bytes : Bytes) {draft : δ} (holds : Draft draft) :
    Yields (format.ofBytes room fields bytes draft) Draft := by
  induction fields generalizing bytes draft with
  | nil => exact .pure holds
  | cons field fields ih =>
      obtain ⟨member, others⟩ := List.cons_subset.mp listed
      cases bytes with
      | nil => exact .throw _
      | cons byte bytes =>
          exact (keeps field member draft holds room _ rfl).bind fun _ => ih others bytes

theorem yields_decoder {P : α → Prop} (keeps : format.Keeps Draft) (blank : Draft format.blank)
    (finishes : ∀ draft value, Draft draft → format.finish draft = .ok value → P value) :
    format.decoder.Yields P := by
  intro room marker narrow
  have finished : ∀ draft, Draft draft →
      Yields (liftM (format.finish draft) : Reader α) P := by
    intro draft holds
    cases ended : format.finish draft with
    | error fault => exact .throw fault
    | ok value => exact .pure (finishes draft value holds ended)
  refine (yields_readHead narrow).bind fun head small => ?_
  cases head with
  | array count =>
      refine (yields_inside room fun room => ?_).bind finished
      exact yields_readItems keeps room (List.Subset.refl _) count blank
  | map count =>
      exact (yields_inside room fun room => yields_readEntries keeps room count blank).bind finished
  | binary bytes =>
      exact (yields_ofBytes keeps room (List.Subset.refl _) bytes blank).bind finished
  | nil | bool | natural | integer | float | text | extension =>
      exact (yields_refuse _ small).bind finished

end RecordFormat

end SentenceCards.MessagePack
