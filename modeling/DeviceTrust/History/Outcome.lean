import DeviceTrust.History.Event
/-! # Outcomes of archived flows

The fold of a flow's history. The first event that says done or cancelled decides; before it the last
word is whether the request was answered.
-/

namespace DeviceTrust

inductive Outcome where
  /-- Started, with nothing else on record. -/
  | started
  | ready
  | verified
  | cancelledByUs
  | cancelled
  | expired
  | failed
  deriving DecidableEq

namespace Outcome

def name : Outcome → String
  | started => "TransactionStarted"
  | ready => "RequestReady"
  | verified => "Verified"
  | cancelledByUs => "TransactionCancelledByMe"
  | cancelled => "TransactionCancelled"
  | expired => "RequestExpired"
  | failed => "TransactionFailed"

def ofCancel (own sender : UserId) : CancelCode → Outcome
  | .user => if sender = own then cancelledByUs else cancelled
  | .timeout => expired
  | _ => failed

/-- Fold events, starting from what is on record before them. -/
def fold (own : UserId) (before : Outcome) : List HistoryEvent → Outcome
  | [] => before
  | event :: rest =>
    match event.kind with
    | .ready => fold own ready rest
    | .done => verified
    | .cancel code => ofCancel own event.sender code
    | .other => fold own before rest

def ofEvents (own : UserId) (events : List HistoryEvent) : Outcome := fold own started events

end Outcome

end DeviceTrust
