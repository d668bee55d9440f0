import SentenceCards.Proofs.Attempts.Packing
import SentenceCards.Proofs.MessagePack.Yields

/-!
# Truncated logs are refused

Every log that is read from bytes fits, so the logs that are read back as they were written are the
ones that fit (`ofBytes_toBytes_iff`).  If the end of such bytes is missing, no log is read from
what is left (`truncated_log_refused`).  A log that does not fit may begin with the bytes of another
one (`toBytes_of_wrapped`).
-/

namespace SentenceCards

open MessagePack (Decoder Field RecordFormat yields_string yields_bool yields_word32 yields_list
  yields_alternative yields_fill)

namespace BuiltWord

/-- What has been found so far fits. -/
structure Draft.Fits (draft : Draft) : Prop where
  word : ∀ word ∈ draft.word, word.utf8ByteSize < UInt32.size
  category : ∀ category ∈ draft.category, category.utf8ByteSize < UInt32.size

theorem keeps : format.Keeps Draft.Fits := by
  simp only [RecordFormat.Keeps, format, List.forall_mem_cons, List.not_mem_nil, false_implies,
    implies_true, and_true]
  constructor
  · intro draft fits
    apply yields_fill yields_string
    intro word small
    exact { fits with word := by simpa using small }
  · intro draft fits
    apply yields_fill yields_string
    intro category small
    exact { fits with category := by simpa using small }

theorem yields : format.decoder.Yields Fits := by
  apply RecordFormat.yields_decoder keeps ⟨nofun, nofun⟩
  rintro ⟨word?, category?⟩ built fits finished
  cases word? with
  | none => cases finished
  | some word =>
      cases category? with
      | none => cases finished
      | some category =>
          cases finished
          exact ⟨fits.word word rfl, fits.category category rfl⟩

end BuiltWord

namespace Attempt

structure Draft.Fits (draft : Draft) : Prop where
  challengeId : ∀ id ∈ draft.challengeId, id.utf8ByteSize < UInt32.size
  built : ∀ built ∈ draft.built, built.length < UInt32.size ∧ ∀ word ∈ built, word.Fits

theorem keeps : format.Keeps Draft.Fits := by
  simp only [RecordFormat.Keeps, format, List.forall_mem_cons, List.not_mem_nil, false_implies,
    implies_true, and_true]
  refine ⟨?_, ?_, ?_⟩
  · intro draft fits
    apply yields_fill yields_string
    intro id small
    exact { fits with challengeId := by simpa using small }
  · intro draft fits
    apply yields_fill (yields_list BuiltWord.yields)
    intro built each
    exact { fits with built := by simpa using each }
  · intro draft fits
    apply yields_fill yields_bool
    intro correct _
    exact { fits with }

theorem yields : format.decoder.Yields Fits := by
  apply RecordFormat.yields_decoder keeps ⟨nofun, nofun⟩
  rintro ⟨id?, built?, correct?⟩ attempt fits finished
  cases id? with
  | none => cases finished
  | some id =>
      cases built? with
      | none => cases finished
      | some built =>
          cases correct? with
          | none => cases finished
          | some correct =>
              cases finished
              obtain ⟨few, each⟩ := fits.built built rfl
              exact ⟨fits.challengeId id rfl, each, few⟩

end Attempt

namespace LessonProgress

structure Draft.Fits (draft : Draft) : Prop where
  lessonId : ∀ id ∈ draft.lessonId, id.utf8ByteSize < UInt32.size
  moduleId : ∀ id ∈ draft.moduleId, id.utf8ByteSize < UInt32.size

theorem keeps : format.Keeps Draft.Fits := by
  simp only [RecordFormat.Keeps, format, List.forall_mem_cons, List.not_mem_nil, false_implies,
    implies_true, and_true]
  refine ⟨?_, ?_, ?_, ?_⟩
  · intro draft fits
    apply yields_fill yields_string
    intro id small
    exact { fits with lessonId := by simpa using small }
  · intro draft fits
    apply yields_fill yields_string
    intro id small
    exact { fits with moduleId := by simpa using small }
  · intro draft fits
    apply yields_fill (yields_alternative LessonStatus.named)
    intro status _
    exact { fits with }
  · intro draft fits
    apply yields_fill yields_word32
    intro score _
    exact { fits with }

theorem yields : format.decoder.Yields Fits := by
  apply RecordFormat.yields_decoder keeps ⟨nofun, nofun⟩
  rintro ⟨lessonId?, moduleId?, status?, score?⟩ row fits finished
  cases lessonId? with
  | none => cases finished
  | some lessonId =>
      cases moduleId? with
      | none => cases finished
      | some moduleId =>
          cases status? with
          | none => cases finished
          | some status =>
              cases score? with
              | none => cases finished
              | some score =>
                  cases finished
                  exact ⟨fits.lessonId lessonId rfl, fits.moduleId moduleId rfl⟩

end LessonProgress

namespace AttemptLog

structure Draft.Fits (draft : Draft) : Prop where
  attempts : ∀ attempts ∈ draft.attempts,
    attempts.length < UInt32.size ∧ ∀ attempt ∈ attempts, attempt.Fits
  progress : ∀ progress ∈ draft.progress,
    progress.length < UInt32.size ∧ ∀ row ∈ progress, row.Fits

theorem keeps : format.Keeps Draft.Fits := by
  simp only [RecordFormat.Keeps, format, List.forall_mem_cons, List.not_mem_nil, false_implies,
    implies_true, and_true]
  constructor
  · intro draft fits
    apply yields_fill (yields_list Attempt.yields)
    intro attempts each
    exact { fits with attempts := by simpa using each }
  · intro draft fits
    apply yields_fill (yields_list LessonProgress.yields)
    intro progress each
    exact { fits with progress := by simpa using each }

theorem yields : format.decoder.Yields Fits := by
  apply RecordFormat.yields_decoder keeps ⟨nofun, nofun⟩
  rintro ⟨attempts?, progress?⟩ log fits finished
  cases attempts? with
  | none => cases finished
  | some attempts =>
      cases progress? with
      | none => cases finished
      | some progress =>
          cases finished
          obtain ⟨fewAttempts, attemptsFit⟩ := fits.attempts attempts rfl
          obtain ⟨fewRows, rowsFit⟩ := fits.progress progress rfl
          exact ⟨attemptsFit, rowsFit, fewAttempts, fewRows⟩

theorem ofBytes_eq_ok_iff {bytes : Bytes} {log : AttemptLog} :
    ofBytes bytes = .ok log ↔
      ∃ rest, format.decoder.read MessagePack.depthLimit bytes = .ok (log, rest) := by
  unfold ofBytes
  rw [StateT.run]
  cases read : format.decoder.read MessagePack.depthLimit bytes with
  | error fault => simp
  | ok found => simp [Prod.ext_iff]

/-- A log that has been read can be written again. -/
theorem fits_of_ofBytes {bytes : Bytes} {log : AttemptLog} (read : ofBytes bytes = .ok log) :
    log.Fits := by
  obtain ⟨rest, found⟩ := ofBytes_eq_ok_iff.mp read
  exact (yields.read MessagePack.depthLimit bytes log rest found).1

theorem ofBytes_toBytes_iff {log : AttemptLog} : ofBytes log.toBytes = .ok log ↔ log.Fits :=
  ⟨fits_of_ofBytes, ofBytes_toBytes⟩

/-- Bytes behind the ones that a log was read from do not matter. -/
theorem ofBytes_append_of_ok {bytes : Bytes} {log : AttemptLog} (read : ofBytes bytes = .ok log)
    (more : Bytes) : ofBytes (bytes ++ more) = .ok log := by
  obtain ⟨rest, found⟩ := ofBytes_eq_ok_iff.mp read
  exact ofBytes_eq_ok_iff.mpr ⟨rest ++ more, (yields.read _ bytes log rest found).2 more⟩

theorem ofBytes_front {log : AttemptLog} (fits : log.Fits) {front : Bytes}
    (cut : front <+: log.toBytes) (shorter : front ≠ log.toBytes) :
    ∃ text, ofBytes front = .error (Cause.undecodable text).failure := by
  have reads := decodes fits MessagePack.depthLimit (by decide)
  obtain ⟨fault, refused⟩ := reads.refuses_front (yields.read _) cut shorter
  refine ⟨fault.message, ?_⟩
  unfold ofBytes
  rw [StateT.run, refused]

/-- Of the number of rows only 32 bits are written. -/
theorem toBytes_of_wrapped {rows : List LessonProgress}
    (wrapped : MessagePack.writtenLength rows.length = 0) :
    (AttemptLog.mk [] rows).toBytes =
      empty.toBytes ++ MessagePack.writtenItems (rows.map LessonProgress.toPacked) := by
  have packed : MessagePack.writtenLength (rows.map LessonProgress.toPacked).length = 0 := by
    rwa [List.length_map]
  simp only [toBytes, toPacked, empty, MessagePack.written, MessagePack.writtenFields,
    MessagePack.writtenItems, packed, List.map_nil, List.append_nil, List.append_assoc]
  rfl

end AttemptLog

end SentenceCards
