import DeviceTrust.Identifier.UserId
import DeviceTrust.Verification.CancelCode
/-! # History events

The events of a room that refer to a verification request, and what each of them means for the flow.
-/

namespace DeviceTrust

structure HistoryEvent where
  eventType : String
  sender : UserId
  /-- When the server received the event, in milliseconds. -/
  timestamp : Nat
  content : Json

namespace HistoryEvent

inductive Kind where
  | ready
  | done
  | cancel (code : CancelCode)
  | other
  deriving DecidableEq

/-- The code of a cancel event; without a text for a code, it is the empty token. -/
def cancelCode (event : HistoryEvent) : CancelCode :=
  .ofToken (((event.content.get? "code").bind Json.text?).getD "")

def kind (event : HistoryEvent) : Kind :=
  if event.eventType = "m.key.verification.ready" then .ready
  else if event.eventType = "m.key.verification.done" then .done
  else if event.eventType = "m.key.verification.cancel" then .cancel event.cancelCode
  else .other

/-- Stable order by timestamp. -/
def sort (events : List HistoryEvent) : List HistoryEvent :=
  events.mergeSort fun a b => a.timestamp ≤ b.timestamp

end HistoryEvent

end DeviceTrust
