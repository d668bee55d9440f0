import SentenceCards.Files.Exchange

/-!
# How an exchange can end

What the files and the clock answer is not known beforehand.  `Exchange.Ends` relates an exchange to every
result that it can have, whatever the answers are.
-/

namespace SentenceCards.Exchange

variable {α β : Type}

/-- With some answers to its questions the exchange has this result. -/
inductive Ends : Exchange α → α → Prop where
  | done (result : α) : Ends (.done result) result
  | read {path : String} {next : Except ReadTrouble Bytes → Exchange α} {result : α}
      (answer : Except ReadTrouble Bytes) : Ends (next answer) result →
      Ends (.read path next) result
  | write {path : String} {bytes : Bytes} {next : Except WriteTrouble Unit → Exchange α}
      {result : α} (answer : Except WriteTrouble Unit) : Ends (next answer) result →
      Ends (.write path bytes next) result
  | time {next : Nat → Exchange α} {result : α} (now : Nat) : Ends (next now) result →
      Ends (.time next) result

theorem ends_done_iff {value result : α} : (done value).Ends result ↔ result = value := by
  constructor
  · intro ends
    cases ends
    rfl
  · rintro rfl
    exact .done result

theorem ends_bind_iff {exchange : Exchange α} {next : α → Exchange β} {result : β} :
    (exchange.bind next).Ends result ↔
      ∃ middle, exchange.Ends middle ∧ (next middle).Ends result := by
  induction exchange with
  | done value =>
      constructor
      · intro ends
        exact ⟨value, .done value, ends⟩
      · rintro ⟨middle, first, second⟩
        cases first
        exact second
  | read path continuation ih =>
      constructor
      · intro ends
        cases ends with
        | read answer later =>
            obtain ⟨middle, first, second⟩ := (ih answer).mp later
            exact ⟨middle, .read answer first, second⟩
      · rintro ⟨middle, first, second⟩
        cases first with
        | read answer earlier => exact .read answer ((ih answer).mpr ⟨middle, earlier, second⟩)
  | write path bytes continuation ih =>
      constructor
      · intro ends
        cases ends with
        | write answer later =>
            obtain ⟨middle, first, second⟩ := (ih answer).mp later
            exact ⟨middle, .write answer first, second⟩
      · rintro ⟨middle, first, second⟩
        cases first with
        | write answer earlier => exact .write answer ((ih answer).mpr ⟨middle, earlier, second⟩)
  | time continuation ih =>
      constructor
      · intro ends
        cases ends with
        | time now later =>
            obtain ⟨middle, first, second⟩ := (ih now).mp later
            exact ⟨middle, .time now first, second⟩
      · rintro ⟨middle, first, second⟩
        cases first with
        | time now earlier => exact .time now ((ih now).mpr ⟨middle, earlier, second⟩)

/-- What comes of an exchange amid surroundings is one of its possible results. -/
theorem ends_run {σ : Type} [Surroundings σ] (exchange : Exchange α) (surroundings : σ) :
    exchange.Ends (exchange.run surroundings).1 := by
  induction exchange generalizing surroundings with
  | done result => exact .done result
  | read path next ih => exact .read _ (ih _ _)
  | write path bytes next ih => exact .write _ (ih _ _)
  | time next ih => exact .time _ (ih _ _)

end SentenceCards.Exchange
