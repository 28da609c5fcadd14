import BankFeed.Store.Ledger

/-!
# Serving a run

A ledger serves a run by answering its calls one after the other. Every call meets a fate of
its own: it is answered at some time, or it fails without effect.
-/

namespace BankFeed

namespace Run

variable {α β γ σ : Type}

theorem bind_assoc (run : Run α) (f : α → Run β) (g : β → Run γ) :
    run >>= f >>= g = run >>= fun a => f a >>= g := by
  induction run with
  | done r =>
      cases r with
      | error e => rfl
      | ok a => rfl
  | ask q resume ih =>
      simp only [bind_ask, ih]

theorem bind_pure (run : Run α) : (run >>= fun a => pure a) = run := by
  induction run with
  | done r =>
      cases r with
      | error e => rfl
      | ok a => rfl
  | ask q resume ih =>
      simp only [bind_ask, ih]

namespace Played

def following (history : List Exchange) (played : Played σ α) : Played σ α :=
  { played with history := history ++ played.history }

theorem following_following (first second : List Exchange) (played : Played σ α) :
    (played.following second).following first = played.following (first ++ second) := by
  simp [following]

end Played
end Run

/-- What becomes of a call: it fails without effect, or it is answered at a time. -/
abbrev Fate : Type :=
  Except Failure Timestamp

namespace Ledger

variable {α β : Type}

/-- Answers calls from the ledger, the call with number `n` as the fate with this number says. -/
def answerUnder (fates : Nat → Fate) : Run.Answering (Nat × Ledger) := fun q (n, l) =>
  match fates n with
  | .error e => (.error e, (n + 1, l))
  | .ok now =>
      let (r, l) := l.answer now q
      (r, (n + 1, l))

def serve (fates : Nat → Fate) (run : Run α) (l : Ledger) : Run.Played Ledger α :=
  let played := run.play (answerUnder fates) (0, l)
  ⟨played.result, played.state.2, played.history⟩

def serveBy (clock : Nat → Timestamp) (run : Run α) (l : Ledger) : Run.Played Ledger α :=
  l.serve (fun n => .ok (clock n)) run

def later (fates : Nat → Fate) : Nat → Fate :=
  fun n => fates (n + 1)

/-!
## Equations

A run is served call by call, the rest of it by the ledger that the first call left.
-/

private theorem play_answerUnder_later (fates : Nat → Fate) (run : Run α) (n : Nat) (l : Ledger) :
    run.play (answerUnder fates) (n + 1, l) =
      let played := run.play (answerUnder (later fates)) (n, l)
      ⟨played.result, (played.state.1 + 1, played.state.2), played.history⟩ := by
  induction run generalizing n l with
  | done r => rfl
  | ask q resume ih =>
      have hfirst : answerUnder fates q (n + 1, l) =
          let answered := answerUnder (later fates) q (n, l)
          (answered.1, (n + 1 + 1, answered.2.2)) := by
        simp only [answerUnder, later]
        cases fates (n + 1) <;> rfl
      have hcount : (answerUnder (later fates) q (n, l)).2 =
          (n + 1, (answerUnder (later fates) q (n, l)).2.2) := by
        simp only [answerUnder, later]
        cases fates (n + 1) <;> rfl
      simp only [Run.play, hfirst]
      rw [ih, ← hcount]

theorem serve_done (fates : Nat → Fate) (r : Except Failure α) (l : Ledger) :
    l.serve fates (.done r) = ⟨r, l, []⟩ := rfl

theorem serve_ask (fates : Nat → Fate) (q : Request) (resume : q.Result → Run α) (l : Ledger) :
    l.serve fates (.ask q resume) =
      match fates 0 with
      | .error e => (l.serve (later fates) (resume (.error e))).following [⟨q, .error e⟩]
      | .ok now =>
          ((l.answer now q).2.serve (later fates) (resume (l.answer now q).1)).following
            [⟨q, (l.answer now q).1⟩] := by
  cases hfate : fates 0 with
  | error e =>
      simp only [serve, Run.play, answerUnder, hfate]
      rw [play_answerUnder_later]
      rfl
  | ok now =>
      simp only [serve, Run.play, answerUnder, hfate]
      rw [play_answerUnder_later]
      rfl

theorem serve_ask_of_error {fates : Nat → Fate} {e : Failure} (hfate : fates 0 = .error e)
    (q : Request) (resume : q.Result → Run α) (l : Ledger) :
    l.serve fates (.ask q resume) =
      (l.serve (later fates) (resume (.error e))).following [⟨q, .error e⟩] := by
  rw [serve_ask, hfate]

theorem serve_ask_of_ok {fates : Nat → Fate} {now : Timestamp} (hfate : fates 0 = .ok now)
    (q : Request) (resume : q.Result → Run α) (l : Ledger) :
    l.serve fates (.ask q resume) =
      ((l.answer now q).2.serve (later fates) (resume (l.answer now q).1)).following
        [⟨q, (l.answer now q).1⟩] := by
  rw [serve_ask, hfate]

theorem serve_bind (fates : Nat → Fate) (run : Run α) (f : α → Run β) (l : Ledger) :
    l.serve fates (run >>= f) =
      match l.serve fates run with
      | ⟨.ok a, l', history⟩ =>
          (l'.serve (fun n => fates (n + history.length)) (f a)).following history
      | ⟨.error e, l', history⟩ => ⟨.error e, l', history⟩ := by
  induction run generalizing fates l with
  | done r =>
      cases r with
      | error e => rfl
      | ok a => rfl
  | ask q resume ih =>
      rw [Run.bind_ask, serve_ask, serve_ask]
      cases fates 0 with
      | error e =>
          simp only [ih]
          generalize l.serve (later fates) (resume (.error e)) = played
          cases played with
          | mk result state history =>
              cases result with
              | error e' => rfl
              | ok a => rfl
      | ok now =>
          simp only [ih]
          generalize (l.answer now q).2.serve (later fates) (resume (l.answer now q).1) = played
          cases played with
          | mk result state history =>
              cases result with
              | error e' => rfl
              | ok a => rfl

theorem serve_bind_pure (fates : Nat → Fate) (run : Run α) (f : α → β) (l : Ledger) :
    l.serve fates (run >>= fun a => pure (f a)) =
      ⟨(l.serve fates run).result.map f, (l.serve fates run).state,
        (l.serve fates run).history⟩ := by
  rw [serve_bind]
  generalize l.serve fates run = played
  cases played with
  | mk result state history =>
      cases result with
      | error e => rfl
      | ok a => simp [Run.pure_eq, serve_done, Run.Played.following, Except.map]

theorem serve_settle (fates : Nat → Fate) (run : Run α) (l : Ledger) :
    l.serve fates run.settle =
      ⟨.ok (l.serve fates run).result, (l.serve fates run).state,
        (l.serve fates run).history⟩ := by
  induction run generalizing fates l with
  | done r => rfl
  | ask q resume ih =>
      rw [Run.settle, serve_ask, serve_ask]
      cases fates 0 with
      | error e => simp only [ih, Run.Played.following]
      | ok now => simp only [ih, Run.Played.following]

end Ledger
end BankFeed
