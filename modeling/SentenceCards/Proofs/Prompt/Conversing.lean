import Mathlib.Data.List.Basic
import SentenceCards.Prompt.Dialogue

/-!
# Dialogues of which the inputs are known

The loop of a dialogue asks, answers and goes on until it is over.  If all inputs are known, this
comes to answering them one after the other (`run_cons_of_ended`, `run_cons_of_onward`).
-/

namespace SentenceCards.Dialogue

variable {σ : Type} [Surroundings σ]

/-- The course of a dialogue that begins with a reply and goes on as given. -/
def Course.after (reply : Reply) (later : Course) : Course where
  printed := reply.printed ++ later.printed
  session := later.session
  history := reply.remembered.toList ++ later.history
  asked := later.asked + 1

theorem Course.ofReplies_cons (reply : Reply) (replies : List Reply) (session : Session) :
    ofReplies (reply :: replies) session = after reply (ofReplies replies session) := by
  cases remembered : reply.remembered <;> simp [ofReplies, after, remembered] <;> rfl

section Partner

variable (told : Protocol) (surroundings : σ)

theorem run_ask :
    (Protocol.partner.ask.run told).run surroundings =
      ((told.inputs.head?, { told with inputs := told.inputs.tail }), surroundings) := rfl

theorem run_carryOut (exchange : Exchange Reply) :
    ((Protocol.partner.carryOut exchange).run told).run surroundings =
      (((exchange.run surroundings).1, told), (exchange.run surroundings).2) :=
  Exchange.run_then surroundings exchange _

theorem run_tell (reply : Reply) :
    ((Protocol.partner.tell reply).run told).run surroundings =
      (((), { told with replies := told.replies ++ [reply] }), surroundings) := rfl

end Partner

section Loop

variable (limit : Nat) (session : Session)

/-- The next input is answered, and the loop goes on if the dialogue does. -/
theorem run_converse_succ (inputs : List Input) (before : List Reply) (surroundings : σ) :
    ((converse Protocol.partner (limit + 1) session).run ⟨inputs, before⟩).run surroundings =
      let answered := (respond session inputs.head?).run surroundings
      let told : Protocol := ⟨inputs.tail, before ++ [answered.1]⟩
      if answered.1.ended then ((answered.1.session, told), answered.2)
      else ((converse Protocol.partner limit answered.1.session).run told).run answered.2 := by
  simp only [converse, StateT.run_bind, Exchange.run_then, run_ask, run_carryOut, run_tell]
  split <;> rfl

/-- What has been said before stays in front. -/
theorem run_converse_append (inputs : List Input) (before : List Reply) (surroundings : σ) :
    ((converse Protocol.partner limit session).run ⟨inputs, before⟩).run surroundings =
      let held := ((converse Protocol.partner limit session).run ⟨inputs, []⟩).run surroundings
      ((held.1.1, ⟨held.1.2.inputs, before ++ held.1.2.replies⟩), held.2) := by
  induction limit generalizing session inputs before surroundings with
  | zero =>
      show _ = ((session, (⟨inputs, before ++ []⟩ : Protocol)), surroundings)
      rw [List.append_nil]
      rfl
  | succ limit ih =>
      simp only [run_converse_succ, List.nil_append]
      split
      · rfl
      · rw [ih _ _ (before ++ _), ih _ _ [_]]
        simp only [List.append_assoc]

end Loop

section Run

variable {session : Session} {input : Input} {rest : List Input} {surroundings between : σ}
  {reply : Reply}

theorem run_eq (session : Session) (inputs : List Input) (surroundings : σ) :
    (run session inputs).run surroundings =
      let held := ((converse Protocol.partner (inputs.length + 1) session).run ⟨inputs, []⟩).run
        surroundings
      (.ofReplies held.1.2.replies held.1.1, held.2) :=
  Exchange.run_then surroundings _ _

theorem run_nil (session : Session) (surroundings : σ) :
    (run session []).run surroundings =
      (.ofReplies [⟨⟨farewell, []⟩, session, none, true⟩] session, surroundings) := rfl

/-- The dialogue is over with this reply. -/
theorem run_cons_of_ended
    (replied : (respond session (some input)).run surroundings = (reply, between))
    (ended : reply.ended = true) :
    (run session (input :: rest)).run surroundings =
      (.ofReplies [reply] reply.session, between) := by
  rw [run_eq, run_converse_succ, List.head?_cons, replied, if_pos ended]
  rfl

/-- The dialogue goes on after this reply. -/
theorem run_cons_of_onward {course : Course} {final : σ}
    (replied : (respond session (some input)).run surroundings = (reply, between))
    (onward : reply.ended = false)
    (later : (run reply.session rest).run between = (course, final)) :
    (run session (input :: rest)).run surroundings = (.after reply course, final) := by
  have step : ((converse Protocol.partner (rest.length + 2) session).run ⟨input :: rest, []⟩).run
      surroundings = ((converse Protocol.partner (rest.length + 1) reply.session).run
        ⟨rest, [reply]⟩).run between := by
    rw [run_converse_succ, List.head?_cons, replied]
    exact if_neg (by simp [onward])
  rw [run_eq] at later
  obtain ⟨rfl, rfl⟩ := Prod.mk.inj later
  rw [run_eq, List.length_cons, step, run_converse_append]
  exact congrArg (·, _) (Course.ofReplies_cons _ _ _)

end Run

end SentenceCards.Dialogue
