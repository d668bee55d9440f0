import SentenceCards.Session.Basic

/-!
# Acting in a session

What is done in a session goes on step by step.  A step can fail, and then nothing further is
done; whatever has been written by then stays written.
-/

namespace SentenceCards

/-- Something done in a session, with a result in `α` unless it fails. -/
abbrev Action := ExceptT Failure (StateM Session)

namespace Action

variable {α β : Type}

/-- What comes of acting in a session, and the session afterwards. -/
def on (action : Action α) (session : Session) : Except Failure α × Session :=
  StateT.run (ExceptT.run action) session

section On

variable (session : Session)

@[simp] theorem on_pure (value : α) : (pure value : Action α).on session = (.ok value, session) :=
  rfl

@[simp] theorem on_throw (failure : Failure) :
    (throw failure : Action α).on session = (.error failure, session) := rfl

@[simp] theorem on_get : (get : Action Session).on session = (.ok session, session) := rfl

@[simp] theorem on_modify (change : Session → Session) :
    (modify change : Action Unit).on session = (.ok (), change session) := rfl

@[simp] theorem on_ofExcept (result : Except Failure α) :
    (ofExcept result : Action α).on session = (result, session) := by
  cases result <;> rfl

/-- The second step goes on in the session that the first one leaves. -/
@[simp] theorem on_bind (first : Action α) (second : α → Action β) :
    (first >>= second).on session =
      match first.on session with
      | (.ok value, later) => (second value).on later
      | (.error failure, later) => (.error failure, later) := by
  show StateT.bind first (ExceptT.bindCont second) session = _
  simp only [StateT.bind, on, StateT.run, ExceptT.run]
  cases first session with
  | mk result later => cases result <;> rfl

@[simp] theorem on_map (change : α → β) (action : Action α) :
    (change <$> action).on session =
      match action.on session with
      | (.ok value, later) => (.ok (change value), later)
      | (.error failure, later) => (.error failure, later) := by
  rw [← bind_pure_comp, on_bind]
  rfl

end On

end Action

end SentenceCards
