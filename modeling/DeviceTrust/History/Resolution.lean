import DeviceTrust.History.Archive
import DeviceTrust.Identifier.RoomId
/-! # Concurrent resolution

Any number of calls that ask for the outcome of an archived flow, as a machine of atomic steps. The
first call for a flow queries the transport and holds the lock of its attempt; later calls wait for that
lock and share what they find. A call may be dropped at any point where it waits, and lets go of all it
holds. The locks are not stored: they follow from what each call is about to do.
-/

namespace DeviceTrust.Resolution

/-- One attempt to resolve a flow, which has a lock of its own. -/
abbrev Attempt := Nat

/-- What a call is about to do. -/
inductive Phase where
  /-- Take the lock on the attempts. -/
  | entering
  /-- Look into the archive, holding the lock on the attempts. -/
  | checking
  /-- Take the lock of somebody else's attempt. -/
  | waiting (attempt : Attempt)
  /-- Look into the archive after an attempt that did not fail. -/
  | rechecking (attempt : Attempt)
  /-- Withdraw an attempt that was abandoned, and start again. -/
  | withdrawing (attempt : Attempt)
  /-- Take the lock of a new attempt, holding the lock on the attempts, and send the query. -/
  | claiming (attempt : Attempt)
  /-- Wait for the answer of the query, holding the lock of the attempt. -/
  | querying (attempt : Attempt)
  /-- Enter the outcome into the archive. -/
  | recording (attempt : Attempt) (outcome : Outcome)
  /-- End an attempt that succeeded. -/
  | leaving (attempt : Attempt) (outcome : Outcome)
  /-- End an attempt that failed, after marking it as failed. -/
  | failing (attempt : Attempt) (error : TransportError)
  | finished (result : Except ResolutionError Outcome)
  | dropped

namespace Phase

def holdsAttempts : Phase → Bool
  | checking | claiming _ => true
  | _ => false

def held? : Phase → Option Attempt
  | querying attempt | recording attempt _ | leaving attempt _ | failing attempt _ => some attempt
  | _ => none

def isOver : Phase → Bool
  | finished _ | dropped => true
  | _ => false

end Phase

structure Caller where
  flow : EventId
  room : RoomId
  phase : Phase

/-- All calls that were ever made, and the state they share. -/
structure Machine where
  archive : Archive
  /-- The attempt to wait for, by flow. -/
  inflight : Std.TreeMap EventId Attempt := ∅
  failures : List Attempt := []
  attempts : Nat := 0
  callers : Array Caller := #[]
  /-- The queries that were sent, oldest first. -/
  queries : List (RoomId × EventId) := []

namespace Machine

def new (archive : Archive) : Machine := { archive }

def attemptsLocked (m : Machine) : Bool := m.callers.any (·.phase.holdsAttempts)

def isHeld (m : Machine) (attempt : Attempt) : Bool :=
  m.callers.any (·.phase.held? == some attempt)

def setPhase (m : Machine) (i : Nat) (phase : Phase) : Machine :=
  { m with callers := m.callers.modify i fun caller => { caller with phase } }

def call (m : Machine) (flow : EventId) (room : RoomId) : Machine :=
  { m with callers := m.callers.push ⟨flow, room, .entering⟩ }

/-- Look into the archive under the lock on the attempts: go home with the outcome, wait for the
attempt that is under way, or start one. -/
def check (m : Machine) (i : Nat) (flow : EventId) : Machine :=
  match m.archive.outcome? flow with
  | some outcome => m.setPhase i (.finished (.ok outcome))
  | none =>
    match m.inflight[flow]? with
    | some attempt => m.setPhase i (.waiting attempt)
    | none =>
      { m.setPhase i (.claiming m.attempts) with
        inflight := m.inflight.insert flow m.attempts
        attempts := m.attempts + 1 }

/-- Take the attempt of a flow off, if it is the one that was abandoned. -/
def withdraw (m : Machine) (flow : EventId) (attempt : Attempt) : Machine :=
  if m.inflight[flow]? = some attempt then { m with inflight := m.inflight.erase flow } else m

/-- Let a call take its next step; `none` if it waits for a lock or an answer, or is over. -/
def step? (m : Machine) (i : Nat) : Option Machine :=
  match m.callers[i]? with
  | none => none
  | some ⟨flow, room, phase⟩ =>
    match phase with
    | .entering => if m.attemptsLocked then none else some (m.setPhase i .checking)
    | .checking => some (m.check i flow)
    | .waiting attempt =>
      if m.isHeld attempt then none
      else if m.failures.contains attempt then
        some (m.setPhase i (.finished (.error .concurrentFailed)))
      else some (m.setPhase i (.rechecking attempt))
    | .rechecking attempt =>
      match m.archive.outcome? flow with
      | some outcome => some (m.setPhase i (.finished (.ok outcome)))
      | none => some (m.setPhase i (.withdrawing attempt))
    | .withdrawing attempt =>
      if m.attemptsLocked then none
      else some ((m.withdraw flow attempt).setPhase i .entering)
    | .claiming attempt =>
      some { m.setPhase i (.querying attempt) with queries := m.queries ++ [(room, flow)] }
    | .querying _ => none
    | .recording attempt outcome =>
      some { m.setPhase i (.leaving attempt outcome) with archive := m.archive.record flow outcome }
    | .leaving _ outcome =>
      if m.attemptsLocked then none
      else some { m.setPhase i (.finished (.ok outcome)) with inflight := m.inflight.erase flow }
    | .failing _ error =>
      if m.attemptsLocked then none
      else
        some { m.setPhase i (.finished (.error (.transport error))) with
          inflight := m.inflight.erase flow }
    | .finished _ => none
    | .dropped => none

def answer? (m : Machine) (i : Nat) (answer : Except TransportError (List HistoryEvent)) :
    Option Machine :=
  match m.callers[i]? with
  | some ⟨_, _, .querying attempt⟩ =>
    match answer with
    | .ok events => some (m.setPhase i (.recording attempt (m.archive.judge events)))
    | .error error =>
      some { m.setPhase i (.failing attempt error) with failures := attempt :: m.failures }
  | _ => none

def drop? (m : Machine) (i : Nat) : Option Machine :=
  match m.callers[i]? with
  | some caller => if caller.phase.isOver then none else some (m.setPhase i .dropped)
  | none => none

def result? (m : Machine) (i : Nat) : Option (Except ResolutionError Outcome) :=
  match m.callers[i]? with
  | some ⟨_, _, .finished result⟩ => some result
  | _ => none

end Machine

end DeviceTrust.Resolution
