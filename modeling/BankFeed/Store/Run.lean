import BankFeed.Store.Request

/-!
# Runs

A run is a computation that talks to the store: it is done with a result, or it makes a call
and goes on from whatever comes back. A run knows nothing of the store that answers, so the
same run can be played against a ledger, against a host that misbehaves, or one call at a
time between the calls of other runs.
-/

namespace BankFeed

inductive Run (α : Type) where
  | done (result : Except Failure α)
  | ask (request : Request) (resume : request.Result → Run α)

namespace Run

variable {α β σ : Type}

def bind : Run α → (α → Run β) → Run β
  | .done (.ok a), f => f a
  | .done (.error e), _ => .done (.error e)
  | .ask q resume, f => .ask q fun r => (resume r).bind f

instance : Monad Run where
  pure a := .done (.ok a)
  bind := bind

def fail (e : Failure) : Run α :=
  .done (.error e)

def call (q : Request) : Run q.Answer :=
  .ask q .done

def attempt (q : Request) : Run q.Result :=
  .ask q fun r => .done (.ok r)

def settle : Run α → Run (Except Failure α)
  | .done r => .done (.ok r)
  | .ask q resume => .ask q fun r => (resume r).settle

/-- A way to answer every call from a state that the calls may change. -/
abbrev Answering (σ : Type) : Type :=
  (q : Request) → σ → q.Result × σ

structure Played (σ α : Type) where
  result : Except Failure α
  state : σ
  history : List Exchange

def play (answering : Answering σ) : Run α → σ → Played σ α
  | .done r, s => ⟨r, s, []⟩
  | .ask q resume, s =>
      let (r, s) := answering q s
      let rest := (resume r).play answering s
      ⟨rest.result, rest.state, ⟨q, r⟩ :: rest.history⟩

theorem pure_eq (a : α) : (pure a : Run α) = .done (.ok a) := rfl

theorem bind_ok (a : α) (f : α → Run β) : (Run.done (.ok a) >>= f) = f a := rfl

theorem bind_ask (q : Request) (resume : q.Result → Run α) (f : α → Run β) :
    (Run.ask q resume >>= f) = .ask q fun r => resume r >>= f := rfl

theorem play_bind (answering : Answering σ) (run : Run α) (f : α → Run β) (s : σ) :
    (run >>= f).play answering s =
      match run.play answering s with
      | ⟨.ok a, s', history⟩ =>
          let rest := (f a).play answering s'
          ⟨rest.result, rest.state, history ++ rest.history⟩
      | ⟨.error e, s', history⟩ => ⟨.error e, s', history⟩ := by
  induction run generalizing s with
  | done r =>
      cases r with
      | error e => rfl
      | ok a => simp [bind_ok, play]
  | ask q resume ih =>
      simp only [bind_ask, play, ih]
      generalize (resume (answering q s).1).play answering (answering q s).2 = played
      cases played with
      | mk result state history =>
          cases result <;> simp

end Run
end BankFeed
