import SentenceCards.MessagePack.Record
import SentenceCards.Proofs.MessagePack.Reading

/-!
# Decoding written values

A decoder gets back the value that was written (`Decodes`), as long as there is room for its
containers inside each other.  What a record is read from is followed field by field (`Fills`).
-/

namespace SentenceCards.MessagePack

variable {α δ : Type}

/-- The decoder makes `value` of what is written of `packed`, in which at most `depth` containers
are inside each other. -/
def Decodes (decoder : Decoder α) (depth : Nat) (packed : Value) (value : α) : Prop :=
  ∀ room, depth ≤ room → Reads (decoder.read room) (written packed) value

/-- More room does no harm. -/
theorem Decodes.mono {decoder : Decoder α} {depth deeper : Nat} {packed : Value} {value : α}
    (decodes : Decodes decoder depth packed value) (le : depth ≤ deeper) :
    Decodes decoder deeper packed value := by
  intro room deep
  exact decodes room (Nat.le_trans le deep)

section Scalars

theorem reads_utf8 (text : String) : Reads (utf8 (Bytes.ofText text)) [] text := by
  have found : Text.ofUtf8 (Bytes.ofText text) = .ok text := by
    rw [Text.ofUtf8, Bytes.text?_ofText]
  rw [utf8, found]
  exact .pure text

theorem opens_writtenText {text : String} (small : text.utf8ByteSize < UInt32.size) :
    ∃ marker : Marker, marker.isText = true ∧
      Opens (writtenText text) marker (.text (Bytes.ofText text)) := by
  have few : (Bytes.ofText text).length < UInt32.size := by rwa [Bytes.length_ofText]
  rw [writtenText, writtenLength_of_lt few]
  exact opens_text few

theorem decodes_string {text : String} (small : text.utf8ByteSize < UInt32.size) :
    Decodes .string 0 (.text text) text := by
  intro room _
  obtain ⟨marker, _, opens⟩ := opens_writtenText small
  rw [written]
  exact opens.reads_alone rfl (reads_utf8 text)

theorem scalar_of_isScalar {marker : Marker} (scalar : marker.isScalar = true) :
    Decoder.scalar marker = marker.readHead := by
  rw [Decoder.scalar, if_pos scalar]

theorem decodes_bool (value : Bool) : Decodes .bool 0 (.bool value) value := by
  intro room _
  have opens : Opens (written (.bool value)) (.bool value) (.bool value) := by
    cases value <;> exact .short rfl rfl
  exact opens.reads_alone rfl (.pure value)

theorem decodes_word32 (n : UInt32) : Decodes .word32 0 (.natural n.toNat) n := by
  intro room _
  have small : n.toNat < UInt32.size := n.toNat_lt
  obtain ⟨marker, scalar, opens⟩ := opens_natural (Nat.lt_trans small (by decide))
  rw [written]
  refine opens.reads_alone (by rw [Decoder.word32, scalar_of_isScalar scalar]) ?_
  simp only [if_pos small, UInt32.ofNat_toNat]
  exact .pure n

theorem decodes_alternative {choices : List (String × α)} {name : String} {value : α}
    (listed : choices.lookup name = some value) (small : name.utf8ByteSize < UInt32.size) :
    Decodes (.alternative choices) 0 (.text name) value := by
  intro room _
  obtain ⟨marker, text, opens⟩ := opens_writtenText small
  have direct : Decoder.alternative choices room marker = Decoder.choice choices marker := by
    cases marker with
    | shortMap | map => simp [Marker.isText] at text
    | _ => rfl
  have named : Reads (Decoder.choiceNamed choices name) [] value := by
    rw [Decoder.choiceNamed, listed]
    exact .pure value
  rw [written]
  exact opens.reads_alone direct ((reads_utf8 name).bind named)

end Scalars

theorem reads_items {reader : Reader α} {pack : α → Value} {items : List α}
    (reads : ∀ item ∈ items, Reads reader (written (pack item)) item) :
    Reads (readTimes reader items.length) (writtenItems (items.map pack)) items := by
  induction items with
  | nil =>
      rw [List.map_nil, writtenItems]
      exact .pure []
  | cons item rest ih =>
      have others := ih fun other member => reads other (List.mem_cons_of_mem _ member)
      rw [List.map_cons, writtenItems]
      exact (reads item List.mem_cons_self).bind (others.result (item :: ·))

theorem decodes_list {decoder : Decoder α} {depth : Nat} {pack : α → Value} {items : List α}
    (decodes : ∀ item ∈ items, Decodes decoder depth (pack item) item)
    (small : items.length < UInt32.size) :
    Decodes (.list decoder) (depth + 1) (.array (items.map pack)) items := by
  intro room deep
  obtain ⟨more, rfl⟩ := Nat.exists_eq_add_of_le' deep
  obtain ⟨marker, opens⟩ := opens_array small
  rw [written, List.length_map, writtenLength_of_lt small]
  refine opens.reads rfl (reads_items fun item member => ?_)
  exact decodes item member (more + depth) (Nat.le_add_left _ _)

section Records

/-- Reading these entries one after the other leads from one draft to the other. -/
inductive Fills (format : RecordFormat δ α) (depth : Nat) :
    List (String × Value) → δ → δ → Prop where
  | nil (draft : δ) : Fills format depth [] draft draft
  | cons {name : String} {packed : Value} {rest : List (String × Value)} {field : Field δ}
      {draft next last : δ} (short : name.utf8ByteSize < UInt32.size)
      (found : format.fields.find? (·.name == name) = some field)
      (unfilled : field.isFilled draft = false) (fills : Decodes (field.fill draft) depth packed next)
      (others : Fills format depth rest next last) :
      Fills format depth ((name, packed) :: rest) draft last

variable {format : RecordFormat δ α} {depth : Nat}

theorem Fills.field {β : Type} {name : String} {decoder : Decoder β} {get : δ → Option β}
    {set : δ → β → δ} {packed : Value} {value : β} {rest : List (String × Value)} {draft last : δ}
    (short : name.utf8ByteSize < UInt32.size)
    (found : format.fields.find? (·.name == name) = some (.of name decoder get set))
    (absent : get draft = none) (decodes : Decodes decoder depth packed value)
    (others : Fills format depth rest (set draft value) last) :
    Fills format depth ((name, packed) :: rest) draft last := by
  refine .cons short found ?_ ?_ others
  · exact Option.isSome_eq_false_iff.mpr (Option.isNone_iff_eq_none.mpr absent)
  · intro room deep
    have filled := (decodes room deep).result (set draft)
    rw [Decoder.read, bind_assoc] at filled
    exact filled

theorem reads_key {name : String} {field : Field δ} (short : name.utf8ByteSize < UInt32.size)
    (found : format.fields.find? (·.name == name) = some field) :
    Reads format.readKey (writtenText name) (some field) := by
  have same : (fun field : Field δ => Bytes.ofText field.name == Bytes.ofText name) =
      (·.name == name) := by
    funext field
    rw [Bool.eq_iff_iff, beq_iff_eq, beq_iff_eq]
    exact ⟨Bytes.ofText_injective, congrArg Bytes.ofText⟩
  obtain ⟨marker, _, opens⟩ := opens_writtenText short
  refine opens.reads_alone rfl ?_
  simp only [same, found]
  exact .pure (some field)

theorem Fills.reads {entries : List (String × Value)} {draft last : δ}
    (fills : Fills format depth entries draft last) {room : Nat} (deep : depth ≤ room) :
    Reads (format.readEntries room entries.length draft) (writtenFields entries) last := by
  induction fills with
  | nil draft =>
      rw [writtenFields]
      exact .pure draft
  | @cons name packed rest field draft next last short found unfilled fills others ih =>
      rw [writtenFields, List.append_assoc]
      refine (reads_key short found).bind ?_
      -- The entry is read in one go here, and marker by marker in the loop.
      have entry := (fills room deep).bind ih
      rw [Decoder.read, bind_assoc] at entry
      simp only [unfilled]
      exact entry

theorem decodes_record {entries : List (String × Value)} {draft : δ} {value : α}
    (fills : Fills format depth entries format.blank draft)
    (finished : format.finish draft = .ok value) (small : entries.length < UInt32.size) :
    Decodes format.decoder (depth + 1) (.record entries) value := by
  intro room deep
  obtain ⟨more, rfl⟩ := Nat.exists_eq_add_of_le' deep
  obtain ⟨marker, opens⟩ := opens_map small
  have read := fills.reads (Nat.le_add_left depth more)
  -- What is made of the draft in the end takes no more bytes.
  have finishes : Reads (liftM (format.finish draft) : Reader α) [] value := by
    rw [finished]
    exact .pure value
  have whole : Reads (format.readEntries (more + depth) entries.length format.blank >>= fun draft =>
      liftM (format.finish draft)) (writtenFields entries ++ []) value := read.bind finishes
  rw [List.append_nil] at whole
  rw [written, writtenLength_of_lt small]
  exact opens.reads rfl whole

end Records

end SentenceCards.MessagePack
