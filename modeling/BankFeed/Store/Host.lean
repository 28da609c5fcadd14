import BankFeed.Store.Ledger

/-!
# Hosts

A host answers calls from its ledger, but need not do so faithfully: calls may fail without
effect, rules may come unfiltered and in any order, and another worker may write to a
transaction just before a write of ours.
-/

namespace BankFeed

structure Conduct where
  /-- The failure with which a kind of call fails, if it does. -/
  faults : Call → Option Failure
  /-- Whether every rule is offered, of whatever tenant and direction. -/
  unfiltered : Bool
  /-- What another worker writes before the next write that reaches the ledger. -/
  race : Option (Status × StatusUpdate)

structure Host where
  ledger : Ledger
  conduct : Conduct

def Conduct.faithful : Conduct :=
  ⟨fun _ => none, false, none⟩

namespace Host

def ofLedger (l : Ledger) : Host :=
  ⟨l, .faithful⟩

def relay (now : Timestamp) (q : Request) (h : Host) : q.Result × Host :=
  let (r, l) := h.ledger.answer now q
  (r, { h with ledger := l })

/-- Lets the other worker write first, once. If its write fails, so does ours. -/
def raceFor (now : Timestamp) (id : String) (h : Host) : Except Failure Unit × Host :=
  match h.conduct.race with
  | none => (.ok (), h)
  | some (status, update) =>
      let (r, l) := h.ledger.compareAndSet now id .unmatched status update
      (r.map fun _ => (), ⟨l, { h.conduct with race := none }⟩)

def answer (now : Timestamp) : Run.Answering Host := fun q h =>
  match h.conduct.faults q.call with
  | some e => (.error e, h)
  | none =>
      match q with
      | .findApplicable tenantId direction =>
          if h.conduct.unfiltered then (.ok h.ledger.rules, h)
          else h.relay now (.findApplicable tenantId direction)
      | .compareAndSet id expected status update =>
          match h.raceFor now id with
          | (.error e, h) => (.error e, h)
          | (.ok (), h) => h.relay now (.compareAndSet id expected status update)
      | q => h.relay now q

end Host
end BankFeed
