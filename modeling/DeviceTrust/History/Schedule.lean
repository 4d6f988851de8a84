import DeviceTrust.History.Resolution
/-! # Cooperative schedules

Schedules of concurrent calls in which one call runs at a time, for as long as it does not wait.
-/

namespace DeviceTrust.Resolution.Machine

/-- What a call that waits for its query is given: nothing yet, or an answer. -/
abbrev Transport := Option (Except TransportError (List HistoryEvent))

def next? (m : Machine) (transport : Transport) (i : Nat) : Option Machine :=
  match m.step? i with
  | some m => some m
  | none => transport.bind (m.answer? i ·)

def advance (transport : Transport) (i : Nat) : Nat → Machine → Machine
  | 0, m => m
  | fuel + 1, m =>
    match m.next? transport i with
    | some m => advance transport i fuel m
    | none => m

/-- More steps than a call takes while no other call does: it starts again at most twice, once for the
attempt it waited for and once for the attempt it finds. -/
def patience : Nat := 32

def run (m : Machine) (transport : Transport) (i : Nat) : Machine := advance transport i patience m

def runAll (m : Machine) (transport : Transport) (callers : List Nat) : Machine :=
  callers.foldl (fun m i => m.run transport i) m

def begin (m : Machine) (room : RoomId) (flow : EventId) : Machine :=
  (m.call flow room).run none m.callers.size

def drop (m : Machine) (i : Nat) : Machine := (m.drop? i).getD m

def resolve (m : Machine) (answer : Except TransportError (List HistoryEvent)) (flow : EventId)
    (room : RoomId) : Machine :=
  (m.call flow room).run (some answer) m.callers.size

/-- Resume the calls in order, again and again, as often as there are calls. -/
def finish (m : Machine) (answer : Except TransportError (List HistoryEvent)) (callers : List Nat) :
    Machine :=
  (callers.map fun _ => callers).foldl (fun m turn => m.runAll (some answer) turn) m

/-- Make calls for several flows while the transport holds back its answers, drop some of them, and let
the others finish. `dropped` counts from the first of these calls. -/
def resolveAll (m : Machine) (answer : Except TransportError (List HistoryEvent)) (room : RoomId)
    (flows : List EventId) (dropped : List Nat) : Machine :=
  let first := m.callers.size
  let begun := flows.foldl (fun m flow => m.begin room flow) m
  let kept := dropped.foldl (fun m i => m.drop (first + i)) begun
  kept.finish answer ((List.range flows.length).map (first + ·))

/-- The results of the calls since the one with number `first`; a dropped call has none. -/
def resultsSince (m : Machine) (first : Nat) : List (Option (Except ResolutionError Outcome)) :=
  (List.range (m.callers.size - first)).map fun i => m.result? (first + i)

end DeviceTrust.Resolution.Machine
