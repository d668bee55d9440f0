import SentenceCards.Attempts.Packed
import SentenceCards.Proofs.MessagePack.Decoding

/-!
# Packed logs are read back

Everything in a log is read back from its bytes, as long as the numbers of items and of bytes can
be written at all (`Fits`).
-/

namespace SentenceCards

open MessagePack (Decodes Fills decodes_record decodes_list decodes_string decodes_bool
  decodes_word32 decodes_alternative)

namespace BuiltWord

structure Fits (built : BuiltWord) : Prop where
  word : built.word.utf8ByteSize < UInt32.size
  category : built.category.utf8ByteSize < UInt32.size

instance (built : BuiltWord) : Decidable built.Fits :=
  decidable_of_iff
    (built.word.utf8ByteSize < UInt32.size ∧ built.category.utf8ByteSize < UInt32.size)
    ⟨fun ⟨word, category⟩ => ⟨word, category⟩, fun ⟨word, category⟩ => ⟨word, category⟩⟩

theorem decodes {built : BuiltWord} (fits : built.Fits) :
    Decodes format.decoder 1 built.toPacked built :=
  decodes_record
    (.field (by decide) rfl rfl (decodes_string fits.word) <|
      .field (by decide) rfl rfl (decodes_string fits.category) <|
      .nil _)
    rfl (show 2 < UInt32.size by decide)

end BuiltWord

namespace Attempt

structure Fits (attempt : Attempt) : Prop where
  challengeId : attempt.challengeId.utf8ByteSize < UInt32.size
  built : ∀ built ∈ attempt.built, built.Fits
  few : attempt.built.length < UInt32.size

instance (attempt : Attempt) : Decidable attempt.Fits :=
  decidable_of_iff
    (attempt.challengeId.utf8ByteSize < UInt32.size ∧ (∀ built ∈ attempt.built, built.Fits) ∧
      attempt.built.length < UInt32.size)
    ⟨fun ⟨id, built, few⟩ => ⟨id, built, few⟩, fun ⟨id, built, few⟩ => ⟨id, built, few⟩⟩

theorem decodes {attempt : Attempt} (fits : attempt.Fits) :
    Decodes format.decoder 3 attempt.toPacked attempt := by
  have built : Decodes (.list BuiltWord.format.decoder) 2
      (.array (attempt.built.map BuiltWord.toPacked)) attempt.built :=
    decodes_list (fun built member => BuiltWord.decodes (fits.built built member)) fits.few
  exact decodes_record
    (.field (by decide) rfl rfl ((decodes_string fits.challengeId).mono (Nat.zero_le _)) <|
      .field (by decide) rfl rfl built <|
      .field (by decide) rfl rfl ((decodes_bool attempt.correct).mono (Nat.zero_le _)) <|
      .nil _)
    rfl (show 3 < UInt32.size by decide)

end Attempt

namespace LessonProgress

structure Fits (row : LessonProgress) : Prop where
  lessonId : row.lessonId.utf8ByteSize < UInt32.size
  moduleId : row.moduleId.utf8ByteSize < UInt32.size

instance (row : LessonProgress) : Decidable row.Fits :=
  decidable_of_iff
    (row.lessonId.utf8ByteSize < UInt32.size ∧ row.moduleId.utf8ByteSize < UInt32.size)
    ⟨fun ⟨lessonId, moduleId⟩ => ⟨lessonId, moduleId⟩, fun ⟨lessonId, moduleId⟩ =>
      ⟨lessonId, moduleId⟩⟩

theorem decodes_status (status : LessonStatus) :
    Decodes (.alternative LessonStatus.named) 0 (.text status.name) status := by
  apply decodes_alternative
  · cases status <;> decide
  · cases status <;> decide

theorem decodes {row : LessonProgress} (fits : row.Fits) :
    Decodes format.decoder 1 row.toPacked row :=
  decodes_record
    (.field (by decide) rfl rfl (decodes_string fits.lessonId) <|
      .field (by decide) rfl rfl (decodes_string fits.moduleId) <|
      .field (by decide) rfl rfl (decodes_status row.status) <|
      .field (by decide) rfl rfl (decodes_word32 row.score) <|
      .nil _)
    rfl (show 4 < UInt32.size by decide)

end LessonProgress

namespace AttemptLog

/-- No text has `2 ^ 32` bytes or more, and no list so many items. -/
structure Fits (log : AttemptLog) : Prop where
  attempts : ∀ attempt ∈ log.attempts, attempt.Fits
  progress : ∀ row ∈ log.progress, row.Fits
  fewAttempts : log.attempts.length < UInt32.size
  fewRows : log.progress.length < UInt32.size

instance (log : AttemptLog) : Decidable log.Fits :=
  decidable_of_iff
    (((∀ attempt ∈ log.attempts, attempt.Fits) ∧ ∀ row ∈ log.progress, row.Fits) ∧
      log.attempts.length < UInt32.size ∧ log.progress.length < UInt32.size)
    ⟨fun ⟨⟨attempts, progress⟩, fewAttempts, fewRows⟩ => ⟨attempts, progress, fewAttempts, fewRows⟩,
      fun ⟨attempts, progress, fewAttempts, fewRows⟩ =>
        ⟨⟨attempts, progress⟩, fewAttempts, fewRows⟩⟩

theorem decodes {log : AttemptLog} (fits : log.Fits) : Decodes format.decoder 5 log.toPacked log := by
  have attempts : Decodes (.list Attempt.format.decoder) 4
      (.array (log.attempts.map Attempt.toPacked)) log.attempts :=
    decodes_list (fun attempt member => Attempt.decodes (fits.attempts attempt member))
      fits.fewAttempts
  have progress : Decodes (.list LessonProgress.format.decoder) 2
      (.array (log.progress.map LessonProgress.toPacked)) log.progress :=
    decodes_list (fun row member => LessonProgress.decodes (fits.progress row member)) fits.fewRows
  exact decodes_record
    (.field (by decide) rfl rfl attempts <|
      .field (by decide) rfl rfl (progress.mono (by decide)) <|
      .nil _)
    rfl (show 2 < UInt32.size by decide)

/-- Bytes after the log do not matter. -/
theorem ofBytes_append {log : AttemptLog} (fits : log.Fits) (rest : Bytes) :
    ofBytes (log.toBytes ++ rest) = .ok log := by
  have read := decodes fits MessagePack.depthLimit (by decide) rest
  unfold ofBytes
  rw [show (format.decoder.read MessagePack.depthLimit).run (log.toBytes ++ rest) = _ from read]

theorem ofBytes_toBytes {log : AttemptLog} (fits : log.Fits) : ofBytes log.toBytes = .ok log := by
  have read := ofBytes_append fits []
  rwa [List.append_nil] at read

theorem toBytes_injective {log other : AttemptLog} (fits : log.Fits) (otherFits : other.Fits)
    (same : log.toBytes = other.toBytes) : log = other := by
  have read := ofBytes_toBytes fits
  rw [same, ofBytes_toBytes otherFits] at read
  exact (Except.ok.inj read).symm

end AttemptLog

end SentenceCards
