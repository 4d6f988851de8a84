import DeviceTrust.History.Outcome
import DeviceTrust.Identifier.EventId
import DeviceTrust.Verification.Error
import Std.Data.TreeMap
/-! # Archive

The outcomes of archived flows that were worked out so far, by the event of their request. Only
outcomes are kept; a failed query leaves no trace.
-/

namespace DeviceTrust

structure Archive where
  ownUser : UserId
  /-- Order the events of a query by timestamp instead of trusting their order. -/
  sorts : Bool
  outcomes : Std.TreeMap EventId Outcome := ∅

namespace Archive

def empty (ownUser : UserId) (sorts : Bool) : Archive := { ownUser, sorts }

def outcome? (archive : Archive) (flow : EventId) : Option Outcome := archive.outcomes[flow]?

def judge (archive : Archive) (events : List HistoryEvent) : Outcome :=
  .ofEvents archive.ownUser (if archive.sorts then HistoryEvent.sort events else events)

def record (archive : Archive) (flow : EventId) (outcome : Outcome) : Archive :=
  { archive with outcomes := archive.outcomes.insert flow outcome }

def settle (archive : Archive) (flow : EventId) :
    Except TransportError (List HistoryEvent) → Except ResolutionError Outcome × Archive
  | .ok events => (.ok (archive.judge events), archive.record flow (archive.judge events))
  | .error error => (.error (.transport error), archive)

end Archive

end DeviceTrust
