import Mathlib.Data.List.Basic
import SentenceCards.Prompt.Script

/-!
# What a script comes to

`Evaluates` tells of lines that are evaluated one after the other without a failure.  A script
evaluates its entries so, to the last one or to the first one that fails
(`Script.runLines_comesTo`).
-/

namespace SentenceCards

variable {σ : Type} [Surroundings σ]

/-- The lines can be evaluated in order, each at its time, and have these texts. -/
inductive Evaluates : Session → σ → List String → List String → Session → σ → Prop where
  | nil (session : Session) (surroundings : σ) :
      Evaluates session surroundings [] [] session surroundings
  | cons {session next last : Session} {surroundings between final : σ} {line text : String}
      {lines texts : List String} :
      (session.evaluateNow line).run surroundings = (⟨.ok text, next⟩, between) →
      Evaluates next between lines texts last final →
      Evaluates session surroundings (line :: lines) (text :: texts) last final

/-- The texts that are shown. -/
def shownAmong (texts : List String) : List String := texts.filter (· ≠ "")

theorem shownAmong_cons (text : String) (texts : List String) :
    shownAmong (text :: texts) =
      (if text.isEmpty then [] else [text]) ++ shownAmong texts := by
  cases empty : text.isEmpty with
  | true => simp [shownAmong, String.isEmpty_iff.mp empty]
  | false =>
      have full : text ≠ "" := by
        rintro rfl
        cases empty
      simp [shownAmong, full]

theorem ScriptRun.push_shownAmong (texts : List String) (session : Session)
    (failure : Option Failure) (text : String) :
    (ScriptRun.mk (shownAmong texts) session failure).push text =
      ⟨shownAmong (text :: texts), session, failure⟩ := by
  rw [shownAmong_cons, push]
  split <;> rfl

theorem Command.isQuit_iff {line : String} :
    isQuit line = true ↔ line ∈ [":quit", ":q", ":exit"] := by
  simp only [isQuit, Bool.or_eq_true, beq_iff_eq, List.mem_cons, List.not_mem_nil, or_false,
    or_assoc]

namespace Script

theorem isPassedOver_iff {line : String} :
    isPassedOver line = true ↔ line = "" ∨ line.toList.head? = some '#' := by
  simp [isPassedOver]

/-- The lines that are to be evaluated, without white space around them and each with its number:
those before the first one that ends the dialogue, but for blank lines and comments. -/
def entries (lines : List String) (number : Nat) : List (String × Nat) :=
  (((lines.map Text.trimmed).zipIdx number).takeWhile fun entry =>
      entry.1 ∉ [":quit", ":q", ":exit"]).filter
    fun entry => ¬ (entry.1 = "" ∨ entry.1.toList.head? = some '#')

section Entries

theorem entries_eq (lines : List String) (number : Nat) :
    entries lines number =
      (((lines.map Text.trimmed).zipIdx number).takeWhile fun entry =>
        !Command.isQuit entry.1).filter fun entry => !isPassedOver entry.1 := by
  have goesOn : (fun entry : String × Nat => decide (entry.1 ∉ [":quit", ":q", ":exit"])) =
      fun entry => !Command.isQuit entry.1 := by
    funext entry
    rw [Bool.eq_iff_iff, decide_eq_true_iff, Bool.not_eq_true', ← Bool.not_eq_true,
      Command.isQuit_iff]
  have counts : (fun entry : String × Nat =>
      decide ¬ (entry.1 = "" ∨ entry.1.toList.head? = some '#')) =
        fun entry => !isPassedOver entry.1 := by
    funext entry
    rw [Bool.eq_iff_iff, decide_eq_true_iff, Bool.not_eq_true', ← Bool.not_eq_true,
      isPassedOver_iff]
  rw [entries, goesOn, counts]

variable {line : String} {rest : List String} {number : Nat}

theorem isQuit_of_isPassedOver {text : String} (passed : isPassedOver text = true) :
    Command.isQuit text = false := by
  cases quits : Command.isQuit text with
  | false => rfl
  | true =>
      simp only [Command.isQuit, Bool.or_eq_true, beq_iff_eq] at quits
      rcases quits with (rfl | rfl) | rfl <;> cases passed

theorem entries_passed (passed : isPassedOver (Text.trimmed line) = true) :
    entries (line :: rest) number = entries rest (number + 1) := by
  simp [entries_eq, isQuit_of_isPassedOver passed, passed]

theorem entries_quit (quits : Command.isQuit (Text.trimmed line) = true) :
    entries (line :: rest) number = [] := by
  simp [entries_eq, quits]

theorem entries_cons (passed : isPassedOver (Text.trimmed line) = false)
    (quits : Command.isQuit (Text.trimmed line) = false) :
    entries (line :: rest) number =
      (Text.trimmed line, number) :: entries rest (number + 1) := by
  simp [entries_eq, quits, passed]

end Entries

/-- What a script with these entries can come to. -/
inductive ComesTo (path : String) (session : Session) (surroundings : σ)
    (entries : List (String × Nat)) : ScriptRun → σ → Prop where
  /-- Every entry has been evaluated. -/
  | ended {texts : List String} {last : Session} {final : σ} :
      Evaluates session surroundings (entries.map Prod.fst) texts last final →
      ComesTo path session surroundings entries ⟨shownAmong texts, last, none⟩ final
  /-- An entry has failed, and none before it. -/
  | failed {before after : List (String × Nat)} {line : String} {number : Nat}
      {texts : List String} {reached last : Session} {between final : σ} {failure : Failure} :
      entries = before ++ (line, number) :: after →
      Evaluates session surroundings (before.map Prod.fst) texts reached between →
      (reached.evaluateNow line).run between = (⟨.error failure, last⟩, final) →
      ComesTo path session surroundings entries
        ⟨shownAmong texts, last, some ⟨failure.cause, some ⟨some s!"{path}:{number}", [line]⟩⟩⟩
        final

theorem ComesTo.cons {path : String} {session next : Session} {surroundings between final : σ}
    {line text : String} {number : Nat} {entries : List (String × Nat)} {run : ScriptRun}
    (evaluated : (session.evaluateNow line).run surroundings = (⟨.ok text, next⟩, between))
    (later : ComesTo path next between entries run final) :
    ComesTo path session surroundings ((line, number) :: entries) (run.push text) final := by
  cases later with
  | ended evaluates =>
      rw [ScriptRun.push_shownAmong]
      exact .ended (.cons evaluated evaluates)
  | failed split evaluates fails =>
      rw [ScriptRun.push_shownAmong, split]
      exact .failed List.cons_append.symm (.cons evaluated evaluates) fails

theorem comesTo_nothing (path : String) (session : Session) (surroundings : σ) :
    ComesTo path session surroundings [] ⟨[], session, none⟩ surroundings := by
  have nothing : Evaluates session surroundings (([] : List (String × Nat)).map Prod.fst) []
    session surroundings := .nil session surroundings
  exact .ended nothing

theorem runLines_comesTo (path : String) (lines : List String) (number : Nat) (session : Session)
    (surroundings : σ) :
    ComesTo path session surroundings (entries lines number)
      ((runLines path lines number session).run surroundings).1
      ((runLines path lines number session).run surroundings).2 := by
  induction lines generalizing number session surroundings with
  | nil => exact comesTo_nothing path session surroundings
  | cons line rest ih =>
      simp only [runLines]
      cases passed : isPassedOver (Text.trimmed line) with
      | true =>
          rw [entries_passed passed, if_pos rfl]
          exact ih (number + 1) session surroundings
      | false =>
          rw [if_neg Bool.false_ne_true]
          cases quits : Command.isQuit (Text.trimmed line) with
          | true =>
              rw [entries_quit quits, if_pos rfl]
              exact comesTo_nothing path session surroundings
          | false =>
              rw [entries_cons passed quits, if_neg Bool.false_ne_true, Exchange.run_bind]
              obtain ⟨⟨⟨result, next⟩, between⟩, evaluated⟩ :
                  ∃ outcome,
                    (session.evaluateNow (Text.trimmed line)).run surroundings = outcome :=
                ⟨_, rfl⟩
              rw [evaluated]
              cases result with
              | ok text =>
                  rw [Exchange.run_bind]
                  exact .cons evaluated (ih (number + 1) next between)
              | error failure =>
                  exact .failed (List.nil_append _).symm (.nil session surroundings) evaluated

theorem run_run {path : String} {files reached : σ} {bytes : Bytes} {text : String}
    (held : Surroundings.read path files = (.ok bytes, reached))
    (decoded : bytes.text? = some text) (session : Session) :
    (run path session).run files = (runLines path (Text.linesOf text) 1 session).run reached := by
  rw [run, Exchange.run_bind, Exchange.run_ofRead, held]
  simp only [decoded]

end Script

end SentenceCards
