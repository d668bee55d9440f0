import SentenceCards.Curriculum.Standard
import SentenceCards.Files.Folder
import SentenceCards.Proofs.MessagePack.Reading
import SentenceCards.Proofs.Prompt.Conversing
import SentenceCards.Proofs.Prompt.Retracing
import SentenceCards.Proofs.Prompt.Script

/-!
# Scripts and dialogues agree

The lines of a script can also be typed one after the other.  If there are no comments among them
and none of them fails, the dialogue evaluates the entries of the script, shows texts that read
alike, and leaves the same session but for times, whatever the clock shows for each of them
(`Dialogue.mirrors_of_evaluates`).
-/

namespace SentenceCards

open Trace (Echo ReadAlike)

variable {σ : Type} [Surroundings σ]

namespace Session

theorem owing_collectTrace (session : Session) :
    (Dialogue.collectTrace session).2.owing session.recorder.echoes = session := by
  show session.withRecorder
    { session.recorder with echoes := session.recorder.echoes ++ [] } = session
  rw [List.append_nil]
  rfl

theorem owing_owing (session : Session) (earlier later : List Echo) :
    (session.owing later).owing earlier = session.owing (earlier ++ later) := by
  show session.withRecorder
    { session.recorder with echoes := earlier ++ (later ++ session.recorder.echoes) } = _
  rw [← List.append_assoc]
  rfl

/-- Collecting the lines of the trace from the second session makes it owe them. -/
theorem Alike.collectTrace {earlier : List Echo} {session other : Session}
    (alike : Alike earlier session other) :
    Alike (earlier ++ other.recorder.echoes) session (Dialogue.collectTrace other).2 := by
  rwa [Alike, ← owing_owing, owing_collectTrace]

/-- Without the lines of the trace that wait to be collected, only times differ. -/
theorem Alike.uncollected {earlier : List Echo} {session other : Session}
    (alike : Alike earlier session other) :
    (Dialogue.collectTrace other).2.untimed = (Dialogue.collectTrace session).2.untimed :=
  congrArg (fun later => (Dialogue.collectTrace later).2) (Eq.symm alike)

theorem Alike.echoes {earlier : List Echo} {session other : Session}
    (alike : Alike earlier session other) :
    (earlier ++ other.recorder.echoes).map Echo.untimed =
      session.recorder.echoes.map Echo.untimed :=
  congrArg (·.recorder.echoes) (Eq.symm alike)

/-- If the texts of an evaluation are known on one side, they read alike on the other. -/
theorem Alike.evaluated {earlier : List Echo} {session other next : Session}
    (alike : Alike earlier session other) {here there between : Clocked σ}
    (files : here.files = there.files) {line text : String}
    (evaluated : (session.evaluateNow line).run here = (⟨.ok text, next⟩, between)) :
    ∃ (read : String) (reached : Session) (after : Clocked σ),
      (other.evaluateNow line).run there = (⟨.ok read, reached⟩, after) ∧
        ReadAlike text read ∧ Alike earlier next reached ∧ between.files = after.files := by
  obtain ⟨results, sessions, same⟩ := alike.evaluateNow line files
  rw [evaluated] at results sessions same
  rcases outcome : (other.evaluateNow line).run there with ⟨⟨result, reached⟩, after⟩
  rw [outcome] at results sessions same
  cases results with
  | shown reads => exact ⟨_, reached, after, rfl, reads, sessions, same⟩

end Session

namespace Dialogue

/-- The course of a dialogue is that of a script with these lines, of which the session that the
script leaves and the texts are given.  The script has not collected what the dialogue wrote for
the trace, nor the lines that had been collected before. -/
structure Course.Mirrors (course : Course) (lines texts : List String) (earlier : List Echo)
    (last : Session) : Prop where
  out : ∃ shown, course.printed.out = shown ++ farewell ∧
    List.Forall₂ ReadAlike (shownAmong texts) shown
  session : ∃ echoes, course.printed.err = echoes.map Echo.line ∧
    Session.Alike (earlier ++ echoes) last course.session
  asked : course.asked =
    (lines.takeWhile fun line => Text.trimmed line ∉ [":quit", ":q", ":exit"]).length + 1

/-- Texts that read alike are shown alike: the empty one is not shown. -/
theorem forall₂_shown {text read : String} (alike : ReadAlike text read) {texts shown : List String}
    (later : List.Forall₂ ReadAlike (shownAmong texts) shown) :
    List.Forall₂ ReadAlike (shownAmong (text :: texts)) ((Printed.ofText read).out ++ shown) := by
  have empty : text.isEmpty = read.isEmpty := by
    rw [Bool.eq_iff_iff, String.isEmpty_iff, String.isEmpty_iff, alike.eq_empty_iff]
  rw [shownAmong_cons, Printed.ofText, empty]
  cases read.isEmpty with
  | true => exact later
  | false => exact .cons alike later

namespace Course.Mirrors

variable {course : Course} {line text read : String} {lines texts : List String}
  {earlier : List Echo} {last : Session}

theorem blank (mirrors : course.Mirrors lines texts earlier last)
    (onward : Command.isQuit (Text.trimmed line) = false) (session : Session) :
    (Course.after ⟨.nothing, session, none, false⟩ course).Mirrors (line :: lines) texts earlier
      last where
  out := mirrors.out
  session := mirrors.session
  asked := by
    rw [← Bool.not_eq_true, Command.isQuit_iff] at onward
    rw [List.takeWhile_cons_of_pos (by simpa using onward)]
    exact congrArg (· + 1) mirrors.asked

theorem evaluated {reached : Session}
    (mirrors : course.Mirrors lines texts (earlier ++ reached.recorder.echoes) last)
    (alike : ReadAlike text read) (onward : Command.isQuit (Text.trimmed line) = false) :
    (Course.after ⟨(collectTrace reached).1 ++ .ofText read, (collectTrace reached).2, some line,
      false⟩ course).Mirrors (line :: lines) (text :: texts) earlier last where
  out := by
    obtain ⟨shown, out, later⟩ := mirrors.out
    refine ⟨(Printed.ofText read).out ++ shown, ?_, forall₂_shown alike later⟩
    show [] ++ (Printed.ofText read).out ++ course.printed.out = _
    rw [out, List.nil_append, List.append_assoc]
  session := by
    obtain ⟨echoes, err, later⟩ := mirrors.session
    refine ⟨reached.recorder.echoes ++ echoes, ?_, ?_⟩
    · show (reached.recorder.echoes.map Echo.line ++ []) ++ course.printed.err = _
      rw [err, List.append_nil, List.map_append]
    · rw [← List.append_assoc]
      exact later
  asked := by
    rw [← Bool.not_eq_true, Command.isQuit_iff] at onward
    rw [List.takeWhile_cons_of_pos (by simpa using onward)]
    exact congrArg (· + 1) mirrors.asked

/-- The dialogue is over before anything is evaluated. -/
theorem ended {reply : Reply} (said : reply.printed = ⟨farewell, []⟩)
    (unasked : lines.takeWhile (fun line => Text.trimmed line ∉ [":quit", ":q", ":exit"]) = [])
    (alike : Session.Alike earlier last reply.session) :
    (Course.ofReplies [reply] reply.session).Mirrors lines [] earlier last where
  out := ⟨[], by simp [ofReplies, said], .nil⟩
  session := ⟨[], by simp [ofReplies, said], by rwa [List.append_nil]⟩
  asked := by
    rw [unasked]
    rfl

end Course.Mirrors

section Replies

variable {session : Session} {surroundings between : σ} {line : String}

theorem respond_blank (blank : (Text.trimmed line).isEmpty = true) :
    (respond session (some (.line line))).run surroundings =
      (⟨.nothing, session, none, false⟩, surroundings) := by
  rw [respond, if_pos blank]
  rfl

theorem respond_quit (full : (Text.trimmed line).isEmpty = false)
    (quits : Command.isQuit (Text.trimmed line) = true) :
    (respond session (some (.line line))).run surroundings =
      (⟨⟨farewell, []⟩, session, some line, true⟩, surroundings) := by
  rw [respond, full, if_neg Bool.false_ne_true, if_pos quits]
  rfl

theorem respond_evaluated {next : Session} {text : String}
    (full : (Text.trimmed line).isEmpty = false)
    (quits : Command.isQuit (Text.trimmed line) = false)
    (evaluated : (session.evaluateNow (Text.trimmed line)).run surroundings =
      (⟨.ok text, next⟩, between)) :
    (respond session (some (.line line))).run surroundings =
      (⟨(collectTrace next).1 ++ .ofText text, (collectTrace next).2, some line, false⟩,
        between) := by
  rw [respond, full, if_neg Bool.false_ne_true, quits, if_neg Bool.false_ne_true,
    Exchange.run_bind, evaluated]
  rfl

end Replies

theorem mirrors_of_evaluates {lines : List String}
    (uncommented : ∀ line ∈ lines, (Text.trimmed line).toList.head? ≠ some '#') {number : Nat}
    {session other last : Session} {earlier : List Echo} (alike : Session.Alike earlier session other)
    {here there final : Clocked σ} (files : here.files = there.files) {texts : List String}
    (evaluates : Evaluates session here ((Script.entries lines number).map Prod.fst) texts last
      final) :
    ∃ course after, (run other (lines.map .line)).run there = (course, after) ∧
      course.Mirrors lines texts earlier last ∧ final.files = after.files := by
  induction lines generalizing number session other earlier here there texts with
  | nil =>
      cases evaluates
      exact ⟨_, there, run_nil other there, .ended rfl rfl alike, files⟩
  | cons line rest ih =>
      obtain ⟨uncommentedLine, uncommentedRest⟩ := List.forall_mem_cons.mp uncommented
      have passed : Script.isPassedOver (Text.trimmed line) = (Text.trimmed line).isEmpty := by
        simp [Script.isPassedOver, uncommentedLine]
      cases blank : (Text.trimmed line).isEmpty with
      | true =>
          rw [blank] at passed
          rw [Script.entries_passed passed] at evaluates
          obtain ⟨course, after, later, mirrors, same⟩ := ih uncommentedRest alike files evaluates
          have onward := Script.isQuit_of_isPassedOver passed
          exact ⟨_, after, run_cons_of_onward (respond_blank blank) rfl later,
            mirrors.blank onward other, same⟩
      | false =>
          rw [blank] at passed
          cases quits : Command.isQuit (Text.trimmed line) with
          | true =>
              rw [Script.entries_quit quits] at evaluates
              cases evaluates
              have unasked : (line :: rest).takeWhile (fun line =>
                  Text.trimmed line ∉ [":quit", ":q", ":exit"]) = [] :=
                List.takeWhile_cons_of_neg (by
                  rw [decide_eq_true_iff, not_not]
                  exact Command.isQuit_iff.mp quits)
              exact ⟨_, there, run_cons_of_ended (respond_quit blank quits) rfl,
                .ended rfl unasked alike, files⟩
          | false =>
              rw [Script.entries_cons passed quits, List.map_cons] at evaluates
              cases evaluates with
              | cons evaluated rest =>
                  obtain ⟨read, reached, after, replied, reads, alike, files⟩ :=
                    alike.evaluated files evaluated
                  obtain ⟨course, after, later, mirrors, same⟩ :=
                    ih uncommentedRest alike.collectTrace files rest
                  exact ⟨_, after,
                    run_cons_of_onward (respond_evaluated blank quits replied) rfl later,
                    mirrors.evaluated reads quits, same⟩

end Dialogue

/-- A script evaluates its entries in order, up to the first one that fails; it leaves what that
failure leaves, and reports the number and the text of the line.  If there are no comments in the
script and nothing fails, then a dialogue with the same lines has the same effect, whatever the
clock shows in either of them: but for times, it shows the same texts, leaves the same session and
the same files, and writes the same records of the trace, which the script has still to write.  It
asks for no line after the first one that ends it. -/
theorem script_and_dialogue_agree {path text : String} {files reached : σ} {bytes : Bytes}
    (held : Surroundings.read path files = (.ok bytes, reached)) (decoded : bytes.text? = some text)
    (session : Session) (clock other : Nat → Nat) :
    let lines := Text.linesOf text
    let script := (Script.run path session).run (Clocked.mk files clock)
    let dialogue := (Dialogue.run session (lines.map .line)).run (Clocked.mk reached other)
    Script.ComesTo path session (Clocked.mk reached clock) (Script.entries lines 1) script.1
        script.2 ∧
      ((∀ line ∈ lines, (Text.trimmed line).toList.head? ≠ some '#') → script.1.failure = none →
        dialogue.2.files = script.2.files ∧
        (Dialogue.collectTrace dialogue.1.session).2.untimed =
          (Dialogue.collectTrace script.1.session).2.untimed ∧
        (∃ shown, dialogue.1.printed.out = shown ++ Dialogue.farewell ∧
          List.Forall₂ ReadAlike script.1.shown shown) ∧
        (∃ echoes, dialogue.1.printed.err = echoes.map Echo.line ∧
          (echoes ++ dialogue.1.session.recorder.echoes).map Echo.untimed =
            script.1.session.recorder.echoes.map Echo.untimed) ∧
        dialogue.1.asked =
          (lines.takeWhile fun line => Text.trimmed line ∉ [":quit", ":q", ":exit"]).length + 1) := by
  intro lines script dialogue
  have clocked : Surroundings.read path (Clocked.mk files clock) =
      (.ok bytes, Clocked.mk reached clock) := by
    rw [Clocked.read_eq, held]
  have comes : Script.ComesTo path session (Clocked.mk reached clock) (Script.entries lines 1)
      script.1 script.2 := by
    simp only [script, Script.run_run clocked decoded]
    exact Script.runLines_comesTo path lines 1 session (Clocked.mk reached clock)
  refine ⟨comes, ?_⟩
  intro uncommented finished
  generalize script = outcome at comes finished ⊢
  obtain ⟨run, final⟩ := outcome
  cases comes with
  | failed => cases finished
  | ended evaluates =>
      have alike : Session.Alike [] session session := rfl
      have files : (Clocked.mk reached clock).files = (Clocked.mk reached other).files := rfl
      obtain ⟨course, after, ends, mirrors, same⟩ :=
        Dialogue.mirrors_of_evaluates uncommented alike files evaluates
      rw [show dialogue = (course, after) from ends]
      obtain ⟨echoes, err, sessions⟩ := mirrors.session
      exact ⟨same.symm, sessions.uncollected, mirrors.out, ⟨echoes, err, sessions.echoes⟩,
        mirrors.asked⟩

/-- The clocks differ, and so do the times in what is listed of the traces.  The other script has a
comment and a line that fails, its third one. -/
theorem script_and_dialogue_agree_listing :
    let listing := ":trace on\nhe whare\n\n:trace show\n :q \n:hand\n"
    let failing := "# start\n\n:hand\nhe whare\n"
    let folder : Folder := ⟨[("listing", .ofText listing), ("failing", .ofText failing)]⟩
    let session := Session.start .standard .standard .usual
    let micros := Clocked.mk folder (1000 * ·)
    let script := (Script.run "listing" session).run micros
    let dialogue := (Dialogue.run session ((Text.linesOf listing).map .line)).run
      (Clocked.mk folder (7000 * · + 5000))
    let failed := (Script.run "failing" session).run micros
    (∃ shown, dialogue.1.printed.out = shown ++ Dialogue.farewell ∧
        List.Forall₂ ReadAlike script.1.shown shown) ∧
      script.1.shown.getLast? = some ("A0001        1us   DETECT he\n" ++
        "A0001        1us   VALIDATE he: He whare\nA0001        1us   RESULT he CORRECT (success)") ∧
      dialogue.1.printed.out[2]? = some ("A0001       12us   DETECT he\n" ++
        "A0001       12us   VALIDATE he: He whare\nA0001       12us   RESULT he CORRECT (success)") ∧
      dialogue.1.asked = 5 ∧
      Script.ComesTo "failing" session micros [(":hand", 3), ("he whare", 4)] failed.1 failed.2 ∧
      failed.1.failure.bind Failure.origin = some ⟨some "failing:3", [":hand"]⟩ := by
  intro listing failing folder session micros script dialogue failed
  have held : Surroundings.read "listing" folder = (.ok (.ofText listing), folder) := rfl
  have heldToo : Surroundings.read "failing" folder = (.ok (.ofText failing), folder) := rfl
  obtain ⟨_, agrees⟩ := script_and_dialogue_agree held (Bytes.text?_ofText _) session (1000 * ·)
    (7000 * · + 5000)
  obtain ⟨comes, _⟩ := script_and_dialogue_agree heldToo (Bytes.text?_ofText _) session (1000 * ·)
    (7000 * · + 5000)
  obtain ⟨finished, listed⟩ : script.1.failure = none ∧ script.1.shown.getLast? =
      some ("A0001        1us   DETECT he\n" ++
        "A0001        1us   VALIDATE he: He whare\nA0001        1us   RESULT he CORRECT (success)") := by
    decide +kernel
  obtain ⟨_, _, out, _, asked⟩ := agrees (by decide +kernel) finished
  have entries : Script.entries (Text.linesOf failing) 1 = [(":hand", 3), ("he whare", 4)] := by
    decide +kernel
  rw [entries] at comes
  refine ⟨out, listed, by decide +kernel, ?_, comes, by decide +kernel⟩
  rw [asked]
  decide +kernel

end SentenceCards
