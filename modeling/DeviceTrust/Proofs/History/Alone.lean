import DeviceTrust.History.Schedule
import DeviceTrust.Proofs.History.Moves
/-! # A call that runs alone

What becomes of a new call while all others rest. It goes home with the outcome on record, or asks the
transport, or goes by the attempt that it finds in flight: if that failed it shares the failure, and if
it was given up it takes the attempt off and starts again.
-/

namespace DeviceTrust.Resolution.Machine

def joined (m : Machine) (flow : EventId) (room : RoomId) (phase : Phase) : Machine :=
  { m with callers := m.callers.push ⟨flow, room, phase⟩ }

-- What a call does to the shared state on its way, piece by piece.

def cleared (m : Machine) (flow : EventId) : Machine := { m with inflight := m.inflight.erase flow }

def entered (m : Machine) (flow : EventId) : Machine :=
  { m with inflight := m.inflight.insert flow m.attempts, attempts := m.attempts + 1 }

def asked (m : Machine) (flow : EventId) (room : RoomId) : Machine :=
  { m with queries := m.queries ++ [(room, flow)] }

def kept (m : Machine) (flow : EventId) (outcome : Outcome) : Machine :=
  { m with archive := m.archive.record flow outcome }

def marked (m : Machine) (attempt : Attempt) : Machine :=
  { m with failures := attempt :: m.failures }

/-- A new attempt for a flow came to its end with the answer of the transport. -/
def settled (m : Machine) (flow : EventId) (room : RoomId)
    (answer : Except TransportError (List HistoryEvent)) : Machine :=
  let asking := (m.entered flow).asked flow room
  match answer with
  | .ok events => (asking.kept flow (m.archive.judge events)).cleared flow
  | .error _ => (asking.marked m.attempts).cleared flow

variable {m next shared : Machine} {i fuel : Nat} {flow : EventId} {room : RoomId}
  {phase after : Phase} {transport : Transport} {attempt : Attempt} {outcome : Outcome}
  {answer : Except TransportError (List HistoryEvent)}

theorem getElem?_callers_joined :
    (m.joined flow room phase).callers[m.callers.size]? = some ⟨flow, room, phase⟩ :=
  Array.getElem?_push_size

theorem setPhase_joined (after : Phase) :
    (m.joined flow room phase).setPhase m.callers.size after = m.joined flow room after := by
  have hCallers : (m.callers.push ⟨flow, room, phase⟩).modify m.callers.size
      (fun caller => { caller with phase := after }) = m.callers.push ⟨flow, room, after⟩ := by
    refine Array.ext_getElem? fun j => ?_
    rw [Array.getElem?_modify, Array.getElem?_push, Array.getElem?_push]
    by_cases hLast : j = m.callers.size
    · simp [hLast]
    · simp [hLast, Ne.symm hLast]
  simp only [joined, setPhase, hCallers]

theorem attemptsLocked_joined (hFree : m.attemptsLocked = false) (hPhase : phase.holdsAttempts = false) :
    (m.joined flow room phase).attemptsLocked = false := by
  rw [attemptsLocked] at hFree
  simp [joined, attemptsLocked, hFree, hPhase]

theorem isHeld_joined (hFree : m.isHeld attempt = false) (hPhase : phase.held? = none) :
    (m.joined flow room phase).isHeld attempt = false := by
  rw [isHeld] at hFree
  simp [joined, isHeld, hFree, hPhase]

theorem withdraw_joined (h : m.inflight[flow]? = some attempt) :
    (m.joined flow room phase).withdraw flow attempt = (m.cleared flow).joined flow room phase :=
  if_pos h

theorem callers_settled (m : Machine) (flow : EventId) (room : RoomId)
    (answer : Except TransportError (List HistoryEvent)) :
    (m.settled flow room answer).callers = m.callers := by
  cases answer <;> rfl

theorem queries_settled (m : Machine) (flow : EventId) (room : RoomId)
    (answer : Except TransportError (List HistoryEvent)) :
    (m.settled flow room answer).queries = m.queries ++ [(room, flow)] := by
  cases answer <;> rfl

theorem result?_joined_finished (result : Except ResolutionError Outcome) (hSize : m.callers.size = i) :
    (m.joined flow room (.finished result)).result? i = some result := by
  rw [← hSize, result?, getElem?_callers_joined]

/-! ## Its steps -/

theorem advance_of_next? (h : m.next? transport i = some next) :
    advance transport i (fuel + 1) m = advance transport i fuel next := by
  rw [advance, h]

theorem advance_turn
    (hTurn : Turn (m.joined flow room phase) i flow room (.step i) phase after
      (shared.joined flow room phase))
    (hSize : m.callers.size = i) (hShared : shared.callers.size = i) :
    advance transport i (fuel + 1) (m.joined flow room phase) =
      advance transport i fuel (shared.joined flow room after) := by
  subst hSize
  have hStep := hTurn.step?_eq getElem?_callers_joined
  rw [← hShared, setPhase_joined, hShared] at hStep
  exact advance_of_next? (by rw [next?, hStep])

theorem advance_answered
    (hTurn : Turn (m.joined flow room (.querying attempt)) i flow room (.answer i answer)
      (.querying attempt) after (shared.joined flow room (.querying attempt)))
    (hSize : m.callers.size = i) (hShared : shared.callers.size = i) :
    advance (some answer) i (fuel + 1) (m.joined flow room (.querying attempt)) =
      advance (some answer) i fuel (shared.joined flow room after) := by
  subst hSize
  have hAnswer := hTurn.answer?_eq getElem?_callers_joined
  rw [← hShared, setPhase_joined, hShared] at hAnswer
  refine advance_of_next? ?_
  rw [next?, step?, getElem?_callers_joined]
  exact hAnswer

theorem advance_finished (result : Except ResolutionError Outcome) (hSize : m.callers.size = i) :
    advance transport i fuel (m.joined flow room (.finished result)) =
      m.joined flow room (.finished result) := by
  subst hSize
  cases fuel with
  | zero => rfl
  | succ fuel =>
    have hNext : (m.joined flow room (.finished result)).next? transport m.callers.size = none := by
      cases transport <;> simp [next?, step?, answer?, getElem?_callers_joined]
    rw [advance, hNext]

theorem advance_entering (hFree : m.attemptsLocked = false) :
    advance transport m.callers.size (fuel + 1) (m.joined flow room .entering) =
      advance transport m.callers.size fuel (m.joined flow room .checking) :=
  advance_turn (.enter (attemptsLocked_joined hFree rfl)) rfl rfl

theorem advance_joins (hFree : m.attemptsLocked = false)
    (hOutcome : m.archive.outcome? flow = none) (hAttempt : m.inflight[flow]? = some attempt) :
    advance transport m.callers.size (fuel + 2) (m.joined flow room .entering) =
      advance transport m.callers.size fuel (m.joined flow room (.waiting attempt)) := by
  rw [advance_entering hFree, advance_turn (.join hOutcome hAttempt) rfl rfl]

theorem advance_claiming :
    advance transport m.callers.size (fuel + 1) (m.joined flow room (.claiming attempt)) =
      advance transport m.callers.size fuel ((m.asked flow room).joined flow room (.querying attempt)) := by
  have hQuery : Turn (m.joined flow room (.claiming attempt)) m.callers.size flow room
      (.step m.callers.size) (.claiming attempt) (.querying attempt)
      ((m.asked flow room).joined flow room (.claiming attempt)) := .query
  exact advance_turn hQuery rfl rfl

theorem advance_recording (hFree : m.attemptsLocked = false) :
    advance transport m.callers.size (fuel + 2) (m.joined flow room (.recording attempt outcome)) =
      ((m.kept flow outcome).cleared flow).joined flow room (.finished (.ok outcome)) := by
  have hRecord : Turn (m.joined flow room (.recording attempt outcome)) m.callers.size flow room
      (.step m.callers.size) (.recording attempt outcome) (.leaving attempt outcome)
      ((m.kept flow outcome).joined flow room (.recording attempt outcome)) := .record
  have hLeave : Turn ((m.kept flow outcome).joined flow room (.leaving attempt outcome))
      m.callers.size flow room (.step m.callers.size) (.leaving attempt outcome)
      (.finished (.ok outcome))
      (((m.kept flow outcome).cleared flow).joined flow room (.leaving attempt outcome)) :=
    .leave (attemptsLocked_joined hFree rfl)
  rw [advance_turn hRecord rfl rfl, advance_turn hLeave rfl rfl]
  exact advance_finished _ rfl

theorem advance_failing {error : TransportError} (hFree : m.attemptsLocked = false) :
    advance transport m.callers.size (fuel + 1) (m.joined flow room (.failing attempt error)) =
      (m.cleared flow).joined flow room (.finished (.error (.transport error))) := by
  have hFail : Turn (m.joined flow room (.failing attempt error)) m.callers.size flow room
      (.step m.callers.size) (.failing attempt error) (.finished (.error (.transport error)))
      ((m.cleared flow).joined flow room (.failing attempt error)) :=
    .fail (attemptsLocked_joined hFree rfl)
  rw [advance_turn hFail rfl rfl]
  exact advance_finished _ rfl

theorem advance_querying (hFree : m.attemptsLocked = false) :
    advance (some answer) m.callers.size (fuel + 3) (m.joined flow room (.querying attempt)) =
      match answer with
      | .ok events =>
        ((m.kept flow (m.archive.judge events)).cleared flow).joined flow room
          (.finished (.ok (m.archive.judge events)))
      | .error error =>
        ((m.marked attempt).cleared flow).joined flow room (.finished (.error (.transport error))) := by
  cases answer with
  | ok events =>
    rw [advance_answered (.receive events) rfl rfl, advance_recording hFree]
    rfl
  | error error =>
    have hRefuse : Turn (m.joined flow room (.querying attempt)) m.callers.size flow room
        (.answer m.callers.size (.error error)) (.querying attempt) (.failing attempt error)
        ((m.marked attempt).joined flow room (.querying attempt)) := .refuse error
    have hFreeMarked : (m.marked attempt).attemptsLocked = false := hFree
    rw [advance_answered hRefuse rfl rfl]
    exact advance_failing hFreeMarked

/-! ## Where it comes to -/

/-- With nothing on record and no attempt in flight, the transport is asked, and its answer is the
result. -/
theorem advance_of_fresh (hFree : m.attemptsLocked = false)
    (hOutcome : m.archive.outcome? flow = none) (hAttempt : m.inflight[flow]? = none) :
    advance (some answer) m.callers.size (fuel + 6) (m.joined flow room .entering) =
      (m.settled flow room answer).joined flow room (.finished (m.archive.settle flow answer).1) := by
  have hStart : Turn (m.joined flow room .checking) m.callers.size flow room (.step m.callers.size)
      .checking (.claiming m.attempts) ((m.entered flow).joined flow room .checking) :=
    .start hOutcome hAttempt
  have hFreeAsked : ((m.entered flow).asked flow room).attemptsLocked = false := hFree
  have hClaim : advance (some answer) m.callers.size (fuel + 4)
        ((m.entered flow).joined flow room (.claiming m.attempts)) =
      advance (some answer) m.callers.size (fuel + 3)
        (((m.entered flow).asked flow room).joined flow room (.querying m.attempts)) :=
    advance_claiming
  rw [advance_entering hFree, advance_turn hStart rfl rfl, hClaim]
  refine (advance_querying hFreeAsked).trans ?_
  cases answer <;> rfl

theorem advance_of_recorded (hFree : m.attemptsLocked = false)
    (hOutcome : m.archive.outcome? flow = some outcome) :
    advance transport m.callers.size (fuel + 2) (m.joined flow room .entering) =
      m.joined flow room (.finished (.ok outcome)) := by
  rw [advance_entering hFree, advance_turn (.find hOutcome) rfl rfl, advance_finished _ rfl]

theorem advance_of_failed (hFree : m.attemptsLocked = false)
    (hOutcome : m.archive.outcome? flow = none) (hAttempt : m.inflight[flow]? = some attempt)
    (hHeld : m.isHeld attempt = false) (hFailed : attempt ∈ m.failures) :
    advance transport m.callers.size (fuel + 3) (m.joined flow room .entering) =
      m.joined flow room (.finished (.error .concurrentFailed)) := by
  have hShare : Turn (m.joined flow room (.waiting attempt)) m.callers.size flow room
      (.step m.callers.size) (.waiting attempt) (.finished (.error .concurrentFailed))
      (m.joined flow room (.waiting attempt)) :=
    .shareFailure (isHeld_joined hHeld rfl) (List.contains_iff_mem.mpr hFailed)
  rw [advance_joins hFree hOutcome hAttempt, advance_turn hShare rfl rfl, advance_finished _ rfl]

theorem advance_of_abandoned (hFree : m.attemptsLocked = false)
    (hOutcome : m.archive.outcome? flow = none) (hAttempt : m.inflight[flow]? = some attempt)
    (hHeld : m.isHeld attempt = false) (hFailed : attempt ∉ m.failures) :
    advance transport m.callers.size (fuel + 5) (m.joined flow room .entering) =
      advance transport m.callers.size fuel ((m.cleared flow).joined flow room .entering) := by
  have hPass : Turn (m.joined flow room (.waiting attempt)) m.callers.size flow room
      (.step m.callers.size) (.waiting attempt) (.rechecking attempt)
      (m.joined flow room (.waiting attempt)) :=
    .pass (isHeld_joined hHeld rfl) (by simpa [joined] using hFailed)
  have hTakeOver : Turn (m.joined flow room (.rechecking attempt)) m.callers.size flow room
      (.step m.callers.size) (.rechecking attempt) (.withdrawing attempt)
      (m.joined flow room (.rechecking attempt)) := .takeOver hOutcome
  have hWithdraw : Turn (m.joined flow room (.withdrawing attempt)) m.callers.size flow room
      (.step m.callers.size) (.withdrawing attempt) .entering
      ((m.cleared flow).joined flow room (.withdrawing attempt)) := by
    rw [← withdraw_joined hAttempt]
    exact .withdraw (attemptsLocked_joined hFree rfl)
  rw [advance_joins hFree hOutcome hAttempt, advance_turn hPass rfl rfl,
    advance_turn hTakeOver rfl rfl, advance_turn hWithdraw rfl rfl]

theorem advance_of_locked (hLocked : m.attemptsLocked = true) :
    advance transport m.callers.size fuel (m.joined flow room .entering) =
      m.joined flow room .entering := by
  cases fuel with
  | zero => rfl
  | succ fuel =>
    have hStill : (m.joined flow room .entering).attemptsLocked = true := by
      rw [attemptsLocked] at hLocked
      simp [joined, attemptsLocked, hLocked]
    have hNext : (m.joined flow room .entering).next? transport m.callers.size = none := by
      cases transport <;> simp [next?, step?, answer?, getElem?_callers_joined, hStill]
    rw [advance, hNext]

theorem resolve_of_recorded (room : RoomId) (answer : Except TransportError (List HistoryEvent))
    (hFree : m.attemptsLocked = false) (hOutcome : m.archive.outcome? flow = some outcome) :
    m.resolve answer flow room = m.joined flow room (.finished (.ok outcome)) :=
  advance_of_recorded hFree hOutcome

theorem resolve_of_fresh (room : RoomId) (answer : Except TransportError (List HistoryEvent))
    (hFree : m.attemptsLocked = false) (hOutcome : m.archive.outcome? flow = none)
    (hAttempt : m.inflight[flow]? = none) :
    m.resolve answer flow room =
      (m.settled flow room answer).joined flow room (.finished (m.archive.settle flow answer).1) :=
  advance_of_fresh hFree hOutcome hAttempt

theorem resolve_of_locked (room : RoomId) (answer : Except TransportError (List HistoryEvent))
    (hLocked : m.attemptsLocked = true) :
    m.resolve answer flow room = m.joined flow room .entering :=
  advance_of_locked hLocked

theorem resolve_of_failed (room : RoomId) (answer : Except TransportError (List HistoryEvent))
    (hFree : m.attemptsLocked = false) (hOutcome : m.archive.outcome? flow = none)
    (hAttempt : m.inflight[flow]? = some attempt) (hHeld : m.isHeld attempt = false)
    (hFailed : attempt ∈ m.failures) :
    m.resolve answer flow room = m.joined flow room (.finished (.error .concurrentFailed)) :=
  advance_of_failed hFree hOutcome hAttempt hHeld hFailed

theorem resolve_of_abandoned (room : RoomId) (answer : Except TransportError (List HistoryEvent))
    (hFree : m.attemptsLocked = false) (hOutcome : m.archive.outcome? flow = none)
    (hAttempt : m.inflight[flow]? = some attempt) (hHeld : m.isHeld attempt = false)
    (hFailed : attempt ∉ m.failures) :
    m.resolve answer flow room =
      ((m.cleared flow).settled flow room answer).joined flow room
        (.finished (m.archive.settle flow answer).1) := by
  have hFreeCleared : (m.cleared flow).attemptsLocked = false := hFree
  have hNone : (m.cleared flow).inflight[flow]? = none := Std.TreeMap.getElem?_erase_self
  have hEnter : m.resolve answer flow room = advance (some answer) m.callers.size 27
      ((m.cleared flow).joined flow room .entering) :=
    advance_of_abandoned hFree hOutcome hAttempt hHeld hFailed
  exact hEnter.trans (advance_of_fresh hFreeCleared hOutcome hNone)

end DeviceTrust.Resolution.Machine
