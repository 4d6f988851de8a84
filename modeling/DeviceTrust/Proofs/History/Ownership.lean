import DeviceTrust.Proofs.History.Moves
import DeviceTrust.Proofs.Table
/-! # Who owns an attempt

The attempt that a flow has in flight is owned by at most one call: by the one that entered it, from
then until it is over or dropped. No other call takes the attempt off while it is owned, so no second
one is entered, and while it is owned the flow has no outcome unless its owner recorded one. `Sound`
says this call by call and pair by pair, and every move keeps it.
-/

namespace DeviceTrust.Resolution

namespace Phase

/-- The attempt that a call in this phase entered itself and still has to end. -/
def owned? : Phase → Option Attempt
  | claiming attempt => some attempt
  | phase => phase.held?

def past? : Phase → Option Attempt
  | rechecking attempt | withdrawing attempt => some attempt
  | _ => none

def awaited? : Phase → Option Attempt
  | waiting attempt => some attempt
  | phase => phase.past?

def recorded? : Phase → Option Outcome
  | leaving _ outcome | finished (.ok outcome) => some outcome
  | _ => none

/-- What two calls in these phases exclude. -/
structure Apart (phase other : Phase) : Prop where
  lock : phase.holdsAttempts = true → other.holdsAttempts = false
  owned : ∀ attempt, phase.owned? = some attempt → other.owned? ≠ some attempt
  past : ∀ attempt, phase.owned? = some attempt → other.past? ≠ some attempt
  unseen : ∀ attempt, phase = claiming attempt → other ≠ waiting attempt

/-- A phase in which a call has no more claims on the others than before. -/
structure Yields (phase after : Phase) : Prop where
  lock : after.holdsAttempts = true → phase.holdsAttempts = true
  owned : ∀ attempt, after.owned? = some attempt → phase.owned? = some attempt
  past : ∀ attempt, after.past? = some attempt → phase.past? = some attempt
  claiming : ∀ attempt, after = claiming attempt → phase = claiming attempt
  waiting : ∀ attempt, after = waiting attempt → phase = waiting attempt

variable {phase after other : Phase}

theorem Apart.of_yields (h : Apart phase other) (hYields : Yields phase after) : Apart after other where
  lock hLock := h.lock (hYields.lock hLock)
  owned attempt hOwned := h.owned attempt (hYields.owned attempt hOwned)
  past attempt hOwned := h.past attempt (hYields.owned attempt hOwned)
  unseen attempt hClaiming := h.unseen attempt (hYields.claiming attempt hClaiming)

theorem Apart.of_yields_right (h : Apart other phase) (hYields : Yields phase after) :
    Apart other after where
  lock hLock := by
    have hFree := h.lock hLock
    cases hAfter : after.holdsAttempts with
    | false => rfl
    | true => cases hFree.symm.trans (hYields.lock hAfter)
  owned attempt hOwned hAfter := h.owned attempt hOwned (hYields.owned attempt hAfter)
  past attempt hOwned hAfter := h.past attempt hOwned (hYields.past attempt hAfter)
  unseen attempt hClaiming hAfter := h.unseen attempt hClaiming (hYields.waiting attempt hAfter)

def IsFree : Phase → Prop
  | entering | finished _ | dropped => True
  | _ => False

theorem IsFree.yields (h : after.IsFree) : Yields phase after := by
  cases after with
  | entering | finished | dropped => exact ⟨nofun, nofun, nofun, nofun, nofun⟩
  | _ => exact h.elim

theorem Yields.of_held {attempt : Attempt} (hOwned : phase.owned? = some attempt)
    (hHeld : after.held? = some attempt) : Yields phase after := by
  cases after with
  | querying | recording | leaving | failing =>
    cases hHeld
    refine ⟨nofun, ?_, nofun, nofun, nofun⟩
    rintro _ ⟨⟩
    exact hOwned
  | _ => cases hHeld

theorem Apart.of_unowned (h : phase.owned? = none)
    (hLock : phase.holdsAttempts = true → other.holdsAttempts = false) : Apart phase other where
  lock := hLock
  owned _ hOwned := nomatch h.symm.trans hOwned
  past _ hOwned := nomatch h.symm.trans hOwned
  unseen _ hClaiming := by
    subst hClaiming
    cases h

theorem awaited?_of_past? {attempt : Attempt} (h : phase.past? = some attempt) :
    phase.awaited? = some attempt := by
  cases phase with
  | rechecking | withdrawing => exact h
  | _ => cases h

theorem owned?_eq_some_cases {attempt : Attempt} (h : phase.owned? = some attempt) :
    phase = .claiming attempt ∨ phase.held? = some attempt := by
  cases phase with
  | claiming entered => exact .inl (congrArg claiming (Option.some.inj h))
  | _ => exact .inr h

end Phase

namespace Machine

open Phase

variable {m shared : Machine} {i j : Nat} {flow other : EventId} {room : RoomId}
  {phase after found : Phase} {made : Move}

structure Fits (m : Machine) (flow : EventId) (phase : Phase) : Prop where
  known : ∀ attempt, phase.awaited? = some attempt → attempt < m.attempts
  inflight : ∀ attempt, phase.owned? = some attempt → m.inflight[flow]? = some attempt
  unrecorded : ∀ attempt, phase.owned? = some attempt → phase.recorded? = none →
    m.archive.outcome? flow = none
  recorded : ∀ outcome, phase.recorded? = some outcome → m.archive.outcome? flow = some outcome

structure Sound (m : Machine) : Prop where
  known : ∀ (flow : EventId) attempt, m.inflight[flow]? = some attempt → attempt < m.attempts
  fits : ∀ i flow phase, m.At i flow phase → m.Fits flow phase
  apart : ∀ i j flow other phase found, i ≠ j → m.At i flow phase → m.At j other found →
    phase.Apart found

theorem Fits.congr (h : m.Fits flow phase) (hArchive : shared.archive = m.archive)
    (hInflight : shared.inflight = m.inflight) (hAttempts : shared.attempts = m.attempts) :
    shared.Fits flow phase where
  known := hAttempts ▸ h.known
  inflight := hInflight ▸ h.inflight
  unrecorded := hArchive ▸ h.unrecorded
  recorded := hArchive ▸ h.recorded

theorem Sound.known_erase (h : m.Sound) (other : EventId) (attempt : Attempt)
    (hErased : (m.inflight.erase flow)[other]? = some attempt) : attempt < m.attempts :=
  h.known other attempt (Table.of_getElem?_erase_eq_some hErased).2

/-- A machine is still sound after one call's turn, if the phase that the call enters fits and is apart
from the phases of all others, which still fit. -/
theorem Sound.setPhase (h : m.Sound) (hAt : m.At i flow phase) (hCallers : shared.callers = m.callers)
    (hKnown : ∀ (flow : EventId) attempt, shared.inflight[flow]? = some attempt →
      attempt < shared.attempts)
    (hFits : shared.Fits flow after)
    (hOthers : ∀ j other found, j ≠ i → m.At j other found →
      shared.Fits other found ∧ after.Apart found ∧ found.Apart after) :
    (shared.setPhase i after).Sound := by
  have hSame {j other found} : shared.At j other found ↔ m.At j other found := by
    rw [At, At, hCallers]
  have hShared := hSame.mpr hAt
  refine ⟨hKnown, ?_, ?_⟩
  · intro j other found hFound
    rcases at_setPhase_cases hShared hFound with ⟨rfl, rfl, rfl⟩ | ⟨hNe, hOther⟩
    · exact hFits.congr rfl rfl rfl
    · exact (hOthers j other found hNe (hSame.mp hOther)).1.congr rfl rfl rfl
  · intro j k first second phase found hNe hFirst hSecond
    rcases at_setPhase_cases hShared hFirst with ⟨rfl, rfl, rfl⟩ | ⟨hFirstNe, hFirstAt⟩
    · rcases at_setPhase_cases hShared hSecond with ⟨hEq, _⟩ | ⟨hSecondNe, hSecondAt⟩
      · exact absurd hEq.symm hNe
      · exact (hOthers k second found hSecondNe (hSame.mp hSecondAt)).2.1
    · rcases at_setPhase_cases hShared hSecond with ⟨rfl, rfl, rfl⟩ | ⟨_, hSecondAt⟩
      · exact (hOthers j first phase hFirstNe (hSame.mp hFirstAt)).2.2
      · exact h.apart j k first second phase found hNe (hSame.mp hFirstAt) (hSame.mp hSecondAt)

theorem Sound.yield (h : m.Sound) (hAt : m.At i flow phase) (hCallers : shared.callers = m.callers)
    (hKnown : ∀ (flow : EventId) attempt, shared.inflight[flow]? = some attempt →
      attempt < shared.attempts)
    (hFits : shared.Fits flow after) (hYields : phase.Yields after)
    (hOthers : ∀ j other found, j ≠ i → m.At j other found → shared.Fits other found) :
    (shared.setPhase i after).Sound := by
  refine h.setPhase hAt hCallers hKnown hFits ?_
  intro j other found hNe hFound
  exact ⟨hOthers j other found hNe hFound,
    (h.apart i j flow other phase found hNe.symm hAt hFound).of_yields hYields,
    (h.apart j i other flow found phase hNe hFound hAt).of_yields_right hYields⟩

theorem Fits.free (hFree : after.IsFree) (hRecorded : after.recorded? = none) :
    m.Fits flow after := by
  have hOutcome (outcome : Outcome) (h : after.recorded? = some outcome) :
      m.archive.outcome? flow = some outcome := nomatch hRecorded.symm.trans h
  cases after with
  | entering | finished | dropped => exact ⟨nofun, nofun, nofun, hOutcome⟩
  | _ => exact hFree.elim

theorem Fits.finished {outcome : Outcome} (h : m.archive.outcome? flow = some outcome) :
    m.Fits flow (.finished (.ok outcome)) := by
  refine ⟨nofun, nofun, nofun, ?_⟩
  rintro _ ⟨⟩
  exact h

theorem Fits.leaving {attempt : Attempt} {outcome : Outcome}
    (hAttempt : m.inflight[flow]? = some attempt) (hOutcome : m.archive.outcome? flow = some outcome) :
    m.Fits flow (.leaving attempt outcome) := by
  refine ⟨nofun, ?_, nofun, ?_⟩
  · rintro _ ⟨⟩
    exact hAttempt
  · rintro _ ⟨⟩
    exact hOutcome

theorem Fits.hold {attempt : Attempt} (h : m.Fits flow phase) (hOwned : phase.owned? = some attempt)
    (hHeld : after.held? = some attempt) (hBefore : phase.recorded? = none)
    (hAfter : after.recorded? = none) : m.Fits flow after := by
  have hInflight := h.inflight attempt hOwned
  have hUnrecorded := h.unrecorded attempt hOwned hBefore
  cases after with
  | querying | recording | failing =>
    cases hHeld
    refine ⟨nofun, ?_, fun _ _ _ => hUnrecorded, nofun⟩
    rintro _ ⟨⟩
    exact hInflight
  | leaving => cases hAfter
  | _ => cases hHeld

/-! ## Changes of the shared state -/

theorem Fits.insert (h : m.Fits other found) (hUnentered : m.inflight[flow]? = none) :
    Fits { m with inflight := m.inflight.insert flow m.attempts, attempts := m.attempts + 1 }
      other found where
  known attempt hAwaited := Nat.lt_succ_of_lt (h.known attempt hAwaited)
  inflight attempt hOwned := by
    have hAttempt := h.inflight attempt hOwned
    have hNe : flow ≠ other := by
      rintro rfl
      cases hUnentered.symm.trans hAttempt
    exact (Table.getElem?_insert_of_ne hNe).trans hAttempt
  unrecorded := h.unrecorded
  recorded := h.recorded

theorem Fits.erase {attempt : Attempt} (h : m.Fits other found)
    (hAttempt : m.inflight[flow]? = some attempt) (hNotOwned : found.owned? ≠ some attempt) :
    Fits { m with inflight := m.inflight.erase flow } other found where
  known := h.known
  inflight owned hOwned := by
    have hOwn := h.inflight owned hOwned
    have hNe : flow ≠ other := by
      rintro rfl
      cases hAttempt.symm.trans hOwn
      exact hNotOwned hOwned
    exact (Table.getElem?_erase_of_ne hNe).trans hOwn
  unrecorded := h.unrecorded
  recorded := h.recorded

theorem outcome?_record_self (archive : Archive) (flow : EventId) (outcome : Outcome) :
    (archive.record flow outcome).outcome? flow = some outcome := by
  simp [Archive.record, Archive.outcome?]

theorem outcome?_record_of_ne {archive : Archive} {outcome : Outcome} (h : flow ≠ other) :
    (archive.record flow outcome).outcome? other = archive.outcome? other :=
  Table.getElem?_insert_of_ne h

theorem Fits.record {attempt : Attempt} {outcome : Outcome} (h : m.Fits other found)
    (hAttempt : m.inflight[flow]? = some attempt) (hNotOwned : found.owned? ≠ some attempt)
    (hUnrecorded : m.archive.outcome? flow = none) :
    Fits { m with archive := m.archive.record flow outcome } other found where
  known := h.known
  inflight := h.inflight
  unrecorded owned hOwned hNone := by
    have hNe : flow ≠ other := by
      rintro rfl
      cases hAttempt.symm.trans (h.inflight owned hOwned)
      exact hNotOwned hOwned
    exact (outcome?_record_of_ne hNe).trans (h.unrecorded owned hOwned hNone)
  recorded known hKnown := by
    have hOutcome := h.recorded known hKnown
    have hNe : flow ≠ other := by
      rintro rfl
      cases hUnrecorded.symm.trans hOutcome
    exact (outcome?_record_of_ne hNe).trans hOutcome

/-! ## One move -/

theorem Sound.still (h : m.Sound) (hAt : m.At i flow phase) (hFits : m.Fits flow after)
    (hYields : phase.Yields after) : (m.setPhase i after).Sound :=
  h.yield hAt rfl h.known hFits hYields fun j other found _ hFound => h.fits j other found hFound

theorem Sound.turn (h : m.Sound) (hAt : m.At i flow phase)
    (hTurn : Turn m i flow room made phase after shared) : (shared.setPhase i after).Sound := by
  have hFits := h.fits i flow phase hAt
  have hApart {j other found} (hNe : j ≠ i) (hFound : m.At j other found) : phase.Apart found :=
    h.apart i j flow other phase found hNe.symm hAt hFound
  cases hTurn with
  | enter hFree =>
    refine h.setPhase hAt rfl h.known ⟨nofun, nofun, nofun, nofun⟩ ?_
    intro j other found hNe hFound
    have hOther := holdsAttempts_eq_false hFree hFound
    refine ⟨h.fits j other found hFound, .of_unowned rfl fun _ => hOther, ?_⟩
    refine ⟨fun hHolds => ?_, fun _ _ => nofun, fun _ _ => nofun, fun _ _ => nofun⟩
    cases hOther.symm.trans hHolds
  | find hOutcome => exact h.still hAt (.finished hOutcome) (IsFree.yields trivial)
  | @join attempt hOutcome hAttempt =>
    refine h.setPhase hAt rfl h.known ⟨?_, nofun, nofun, nofun⟩ ?_
    · rintro _ ⟨⟩
      exact h.known flow attempt hAttempt
    · intro j other found hNe hFound
      refine ⟨h.fits j other found hFound, .of_unowned rfl nofun, ?_⟩
      refine ⟨fun _ => rfl, fun _ _ => nofun, fun _ _ => nofun, ?_⟩
      -- Who claims an attempt holds the lock on the attempts, which this call has.
      rintro claimed rfl
      cases (hApart hNe hFound).lock rfl
  | start hOutcome hAttempt =>
    refine h.setPhase hAt rfl ?_ ?_ ?_
    · intro other attempt hFound
      obtain ⟨_, rfl⟩ | hFound := Table.of_getElem?_insert_eq_some hFound
      · exact Nat.lt_succ_self m.attempts
      · exact Nat.lt_succ_of_lt (h.known other attempt hFound)
    · refine ⟨nofun, ?_, fun _ _ _ => hOutcome, nofun⟩
      rintro _ ⟨⟩
      exact Std.TreeMap.getElem?_insert_self
    · intro j other found hNe hFound
      have hOther := h.fits j other found hFound
      have hFree := (hApart hNe hFound).lock rfl
      -- The attempt is new, so nobody owns it or goes by it.
      have hOwned : found.owned? ≠ some m.attempts := fun hOwned =>
        Nat.lt_irrefl _ (h.known other _ (hOther.inflight _ hOwned))
      have hAwaited : found.awaited? ≠ some m.attempts := fun hAwaited =>
        Nat.lt_irrefl _ (hOther.known _ hAwaited)
      refine ⟨hOther.insert hAttempt, ⟨fun _ => hFree, ?_, ?_, ?_⟩, ⟨?_, ?_, nofun, nofun⟩⟩
      · rintro _ ⟨⟩
        exact hOwned
      · rintro _ ⟨⟩ hPast
        exact hAwaited (awaited?_of_past? hPast)
      · rintro _ ⟨⟩ rfl
        exact hAwaited rfl
      · intro hHolds
        cases hFree.symm.trans hHolds
      · rintro _ hOwn ⟨⟩
        exact hOwned hOwn
  | shareFailure hFree hFailed => exact h.still hAt (.free trivial rfl) (IsFree.yields trivial)
  | @pass attempt hFree hFailed =>
    refine h.setPhase hAt rfl h.known ⟨hFits.known, nofun, nofun, nofun⟩ ?_
    intro j other found hNe hFound
    refine ⟨h.fits j other found hFound, .of_unowned rfl nofun, fun _ => rfl, fun _ _ => nofun, ?_,
      fun _ _ => nofun⟩
    -- The attempt's lock is free, and nobody waits for an attempt whose lock is still to be taken.
    rintro _ hOwned ⟨⟩
    rcases owned?_eq_some_cases hOwned with rfl | hHeld
    · exact (h.apart j i other flow _ _ hNe hFound hAt).unseen attempt rfl rfl
    · exact held?_ne hFree hFound hHeld
  | share hOutcome => exact h.still hAt (.finished hOutcome) (IsFree.yields trivial)
  | takeOver hOutcome =>
    exact h.still hAt ⟨hFits.known, nofun, nofun, nofun⟩ ⟨nofun, nofun, fun _ => id, nofun, nofun⟩
  | @withdraw attempt hFree =>
    rw [Machine.withdraw]
    split
    · next hAttempt =>
      refine h.yield hAt rfl h.known_erase (.free trivial rfl) (IsFree.yields trivial) ?_
      intro j other found hNe hFound
      refine (h.fits j other found hFound).erase hAttempt fun hOwned => ?_
      exact (h.apart j i other flow _ _ hNe hFound hAt).past attempt hOwned rfl
    · exact h.still hAt (.free trivial rfl) (IsFree.yields trivial)
  | @query attempt =>
    have hKept : m.Fits flow (.querying attempt) := hFits.hold rfl rfl rfl rfl
    refine h.yield hAt rfl h.known (hKept.congr rfl rfl rfl) (.of_held rfl rfl) ?_
    intro j other found _ hFound
    exact (h.fits j other found hFound).congr rfl rfl rfl
  | @record attempt outcome =>
    have hAttempt := hFits.inflight attempt rfl
    have hUnrecorded := hFits.unrecorded attempt rfl rfl
    have hRecorded := outcome?_record_self m.archive flow outcome
    refine h.yield hAt rfl h.known (Fits.leaving hAttempt hRecorded) (.of_held rfl rfl) ?_
    intro j other found hNe hFound
    exact (h.fits j other found hFound).record hAttempt ((hApart hNe hFound).owned attempt rfl)
      hUnrecorded
  | @leave attempt outcome hFree =>
    refine h.yield hAt rfl h.known_erase ?_ (IsFree.yields trivial) ?_
    · exact Fits.finished (hFits.recorded outcome rfl)
    · intro j other found hNe hFound
      exact (h.fits j other found hFound).erase (hFits.inflight attempt rfl)
        ((hApart hNe hFound).owned attempt rfl)
  | @fail attempt error hFree =>
    refine h.yield hAt rfl h.known_erase (.free trivial rfl) (IsFree.yields trivial) ?_
    intro j other found hNe hFound
    exact (h.fits j other found hFound).erase (hFits.inflight attempt rfl)
      ((hApart hNe hFound).owned attempt rfl)
  | receive events => exact h.still hAt (hFits.hold rfl rfl rfl rfl) (.of_held rfl rfl)
  | @refuse attempt error =>
    have hKept : m.Fits flow (.failing attempt error) := hFits.hold rfl rfl rfl rfl
    refine h.yield hAt rfl h.known (hKept.congr rfl rfl rfl) (.of_held rfl rfl) ?_
    intro j other found _ hFound
    exact (h.fits j other found hFound).congr rfl rfl rfl
  | drop hLive => exact h.still hAt (.free trivial rfl) (IsFree.yields trivial)

theorem Sound.call (h : m.Sound) (asked : EventId) (room : RoomId) : (m.call asked room).Sound := by
  refine ⟨h.known, ?_, ?_⟩
  · intro i flow phase hAt
    rcases at_call_cases hAt with rfl | hOld
    · exact .free trivial rfl
    · exact (h.fits i flow phase hOld).congr rfl rfl rfl
  · intro i j flow other phase found hNe hAt hFound
    rcases at_call_cases hAt with rfl | hOld
    · exact .of_unowned rfl nofun
    · rcases at_call_cases hFound with rfl | hOther
      · exact ⟨fun _ => rfl, fun _ _ => nofun, fun _ _ => nofun, fun _ _ => nofun⟩
      · exact h.apart i j flow other phase found hNe hOld hOther

theorem Sound.move (h : m.Sound) (made : Move) : (m.move made).Sound := by
  rcases m.move_cases made with
    hSame | ⟨flow, room, rfl⟩ | ⟨i, flow, room, phase, after, shared, hTurn⟩
  · rwa [hSame]
  · exact h.call flow room
  · obtain ⟨hCaller, hTurn, hMove⟩ := hTurn
    rw [hMove]
    exact h.turn ⟨room, hCaller⟩ hTurn

theorem sound_new (archive : Archive) : (new archive).Sound := by
  refine ⟨?_, fun _ _ _ hAt => (not_at_new hAt).elim, fun _ _ _ _ _ _ _ hAt => (not_at_new hAt).elim⟩
  intro flow attempt hAttempt
  simp [new] at hAttempt

end Machine

end DeviceTrust.Resolution
