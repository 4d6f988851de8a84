import DeviceTrust.History.Resolution
/-! # Runs of concurrent resolution

Calls are made, take steps, get answers and are dropped, in any order. A run is the list of these moves;
a move that is not possible when it comes changes nothing. `move_cases` says once what a move can do:
one call goes from one phase to another, and the shared state changes as that turn says.
-/

namespace DeviceTrust.Resolution

inductive Move where
  | call (flow : EventId) (room : RoomId)
  | step (i : Nat)
  | answer (i : Nat) (answer : Except TransportError (List HistoryEvent))
  | drop (i : Nat)

namespace Machine

def move (m : Machine) : Move → Machine
  | .call flow room => m.call flow room
  | .step i => (m.step? i).getD m
  | .answer i answer => (m.answer? i answer).getD m
  | .drop i => (m.drop? i).getD m

def play (m : Machine) (moves : List Move) : Machine := moves.foldl move m

theorem play_cons (m : Machine) (made : Move) (rest : List Move) :
    m.play (made :: rest) = (m.move made).play rest := rfl

theorem play_append (m : Machine) (before after : List Move) :
    m.play (before ++ after) = (m.play before).play after := List.foldl_append

theorem play_concat (m : Machine) (moves : List Move) (made : Move) :
    m.play (moves ++ [made]) = (m.play moves).move made := m.play_append moves [made]

def At (m : Machine) (i : Nat) (flow : EventId) (phase : Phase) : Prop :=
  ∃ room, m.callers[i]? = some ⟨flow, room, phase⟩

/-- The turns that a call can take: the move that makes it, the phase before and the phase after, and
the machine before the call enters that phase. -/
inductive Turn (m : Machine) (i : Nat) (flow : EventId) (room : RoomId) :
    Move → Phase → Phase → Machine → Prop
  | enter (hFree : m.attemptsLocked = false) : Turn m i flow room (.step i) .entering .checking m
  | find {outcome : Outcome} (hOutcome : m.archive.outcome? flow = some outcome) :
    Turn m i flow room (.step i) .checking (.finished (.ok outcome)) m
  | join {attempt : Attempt} (hOutcome : m.archive.outcome? flow = none)
    (hAttempt : m.inflight[flow]? = some attempt) :
    Turn m i flow room (.step i) .checking (.waiting attempt) m
  | start (hOutcome : m.archive.outcome? flow = none) (hAttempt : m.inflight[flow]? = none) :
    Turn m i flow room (.step i) .checking (.claiming m.attempts)
      { m with inflight := m.inflight.insert flow m.attempts, attempts := m.attempts + 1 }
  | shareFailure {attempt : Attempt} (hFree : m.isHeld attempt = false)
    (hFailed : m.failures.contains attempt = true) :
    Turn m i flow room (.step i) (.waiting attempt) (.finished (.error .concurrentFailed)) m
  | pass {attempt : Attempt} (hFree : m.isHeld attempt = false)
    (hFailed : m.failures.contains attempt = false) :
    Turn m i flow room (.step i) (.waiting attempt) (.rechecking attempt) m
  | share {attempt : Attempt} {outcome : Outcome}
    (hOutcome : m.archive.outcome? flow = some outcome) :
    Turn m i flow room (.step i) (.rechecking attempt) (.finished (.ok outcome)) m
  | takeOver {attempt : Attempt} (hOutcome : m.archive.outcome? flow = none) :
    Turn m i flow room (.step i) (.rechecking attempt) (.withdrawing attempt) m
  | withdraw {attempt : Attempt} (hFree : m.attemptsLocked = false) :
    Turn m i flow room (.step i) (.withdrawing attempt) .entering (m.withdraw flow attempt)
  | query {attempt : Attempt} :
    Turn m i flow room (.step i) (.claiming attempt) (.querying attempt)
      { m with queries := m.queries ++ [(room, flow)] }
  | record {attempt : Attempt} {outcome : Outcome} :
    Turn m i flow room (.step i) (.recording attempt outcome) (.leaving attempt outcome)
      { m with archive := m.archive.record flow outcome }
  | leave {attempt : Attempt} {outcome : Outcome} (hFree : m.attemptsLocked = false) :
    Turn m i flow room (.step i) (.leaving attempt outcome) (.finished (.ok outcome))
      { m with inflight := m.inflight.erase flow }
  | fail {attempt : Attempt} {error : TransportError} (hFree : m.attemptsLocked = false) :
    Turn m i flow room (.step i) (.failing attempt error) (.finished (.error (.transport error)))
      { m with inflight := m.inflight.erase flow }
  | receive {attempt : Attempt} (events : List HistoryEvent) :
    Turn m i flow room (.answer i (.ok events)) (.querying attempt)
      (.recording attempt (m.archive.judge events)) m
  | refuse {attempt : Attempt} (error : TransportError) :
    Turn m i flow room (.answer i (.error error)) (.querying attempt) (.failing attempt error)
      { m with failures := attempt :: m.failures }
  | drop {phase : Phase} (hLive : phase.isOver = false) :
    Turn m i flow room (.drop i) phase .dropped m

variable {m next : Machine} {i j : Nat} {flow other : EventId} {room : RoomId}
  {phase after found : Phase} {made : Move}

/-! ## Where the calls are -/

theorem At.unique (h : m.At i flow phase) (hOther : m.At i other found) :
    other = flow ∧ found = phase := by
  obtain ⟨room, hCaller⟩ := h
  obtain ⟨_, hFound⟩ := hOther
  cases hCaller.symm.trans hFound
  exact ⟨rfl, rfl⟩

theorem At.ne (h : m.At i flow phase) (hOther : m.At j other found) (hPhase : phase ≠ found) :
    i ≠ j := by
  rintro rfl
  exact hPhase (h.unique hOther).2.symm

theorem not_at_new {archive : Archive} : ¬ (new archive).At i flow phase := by
  rintro ⟨room, hCaller⟩
  simp [new] at hCaller

theorem at_setPhase_self (h : m.At i flow phase) : (m.setPhase i after).At i flow after := by
  obtain ⟨room, hCaller⟩ := h
  exact ⟨room, by simp [setPhase, Array.getElem?_modify, hCaller]⟩

theorem at_setPhase_of_ne (h : j ≠ i) :
    (m.setPhase i after).At j other found ↔ m.At j other found := by
  simp only [At, setPhase, Array.getElem?_modify, if_neg h.symm]

theorem at_setPhase_cases (h : m.At i flow phase) (hFound : (m.setPhase i after).At j other found) :
    (j = i ∧ other = flow ∧ found = after) ∨ (j ≠ i ∧ m.At j other found) := by
  by_cases hCaller : j = i
  · subst hCaller
    exact .inl ⟨rfl, (at_setPhase_self h).unique hFound⟩
  · exact .inr ⟨hCaller, (at_setPhase_of_ne hCaller).mp hFound⟩

theorem at_call_cases {asked : EventId} (h : (m.call asked room).At j other found) :
    found = .entering ∨ m.At j other found := by
  obtain ⟨asker, hCaller⟩ := h
  rw [call, Array.getElem?_push] at hCaller
  split at hCaller
  · cases hCaller
    exact .inl rfl
  · exact .inr ⟨asker, hCaller⟩

theorem holdsAttempts_eq_false (h : m.attemptsLocked = false) (hAt : m.At i flow phase) :
    phase.holdsAttempts = false := by
  obtain ⟨room, hCaller⟩ := hAt
  rw [attemptsLocked, Array.any_eq_false'] at h
  simpa using h _ (Array.mem_of_getElem? hCaller)

theorem held?_ne {attempt : Attempt} (h : m.isHeld attempt = false) (hAt : m.At i flow phase) :
    phase.held? ≠ some attempt := by
  obtain ⟨room, hCaller⟩ := hAt
  rw [isHeld, Array.any_eq_false'] at h
  simpa using h _ (Array.mem_of_getElem? hCaller)

/-! ## What a move can do -/

theorem step?_eq_some (hCaller : m.callers[i]? = some ⟨flow, room, phase⟩)
    (h : m.step? i = some next) :
    ∃ after shared, Turn m i flow room (.step i) phase after shared ∧
      next = shared.setPhase i after := by
  simp only [step?, hCaller] at h
  cases phase with
  | entering =>
    simp only [Option.ite_none_left_eq_some, Option.some.injEq, Bool.not_eq_true] at h
    exact ⟨_, _, .enter h.1, h.2.symm⟩
  | checking =>
    rw [Option.some.injEq, check] at h
    split at h
    · next outcome hOutcome => exact ⟨_, _, .find hOutcome, h.symm⟩
    · next hOutcome =>
      split at h
      · next attempt hAttempt => exact ⟨_, _, .join hOutcome hAttempt, h.symm⟩
      · next hAttempt => exact ⟨_, _, .start hOutcome hAttempt, h.symm⟩
  | waiting attempt =>
    simp only [Option.ite_none_left_eq_some, Bool.not_eq_true] at h
    obtain ⟨hFree, h⟩ := h
    split at h
    · next hFailed => exact ⟨_, _, .shareFailure hFree hFailed, (Option.some.inj h).symm⟩
    · next hFailed =>
      exact ⟨_, _, .pass hFree (Bool.not_eq_true _ ▸ hFailed), (Option.some.inj h).symm⟩
  | rechecking attempt =>
    dsimp only at h
    split at h
    · next outcome hOutcome => exact ⟨_, _, .share hOutcome, (Option.some.inj h).symm⟩
    · next hOutcome => exact ⟨_, _, .takeOver hOutcome, (Option.some.inj h).symm⟩
  | withdrawing attempt =>
    simp only [Option.ite_none_left_eq_some, Option.some.injEq, Bool.not_eq_true] at h
    exact ⟨_, _, .withdraw h.1, h.2.symm⟩
  | claiming attempt => exact ⟨_, _, .query, (Option.some.inj h).symm⟩
  | recording attempt outcome => exact ⟨_, _, .record, (Option.some.inj h).symm⟩
  | leaving attempt outcome =>
    simp only [Option.ite_none_left_eq_some, Option.some.injEq, Bool.not_eq_true] at h
    exact ⟨_, _, .leave h.1, h.2.symm⟩
  | failing attempt error =>
    simp only [Option.ite_none_left_eq_some, Option.some.injEq, Bool.not_eq_true] at h
    exact ⟨_, _, .fail h.1, h.2.symm⟩
  | querying | finished | dropped => cases h

theorem answer?_eq_some {answer : Except TransportError (List HistoryEvent)}
    (h : m.answer? i answer = some next) :
    ∃ flow room attempt after shared, m.callers[i]? = some ⟨flow, room, .querying attempt⟩ ∧
      Turn m i flow room (.answer i answer) (.querying attempt) after shared ∧
      next = shared.setPhase i after := by
  rw [answer?] at h
  split at h
  · next flow room attempt hCaller =>
    cases answer with
    | ok events =>
      exact ⟨flow, room, attempt, _, _, hCaller, .receive events, (Option.some.inj h).symm⟩
    | error error =>
      exact ⟨flow, room, attempt, _, _, hCaller, .refuse error, (Option.some.inj h).symm⟩
  · cases h

theorem Turn.step?_eq {shared : Machine} (hTurn : Turn m i flow room (.step i) phase after shared)
    (hCaller : m.callers[i]? = some ⟨flow, room, phase⟩) :
    m.step? i = some (shared.setPhase i after) := by
  rw [step?, hCaller]
  cases hTurn with
  | enter hFree | withdraw hFree | leave hFree | fail hFree => simp only [hFree]; rfl
  | find hOutcome | share hOutcome | takeOver hOutcome => simp only [check, hOutcome]
  | join hOutcome hAttempt | start hOutcome hAttempt => simp only [check, hOutcome, hAttempt, setPhase]
  | shareFailure hFree hFailed | pass hFree hFailed => simp only [hFree, hFailed]; rfl
  | query | record => rfl

theorem Turn.answer?_eq {shared : Machine} {answer : Except TransportError (List HistoryEvent)}
    (hTurn : Turn m i flow room (.answer i answer) phase after shared)
    (hCaller : m.callers[i]? = some ⟨flow, room, phase⟩) :
    m.answer? i answer = some (shared.setPhase i after) := by
  cases hTurn with
  | receive events => rw [answer?, hCaller]
  | refuse error =>
    rw [answer?, hCaller]
    rfl

theorem drop?_eq_some (h : m.drop? i = some next) :
    ∃ caller, m.callers[i]? = some caller ∧ caller.phase.isOver = false ∧
      next = m.setPhase i .dropped := by
  rw [drop?] at h
  split at h
  · next caller hCaller =>
    simp only [Option.ite_none_left_eq_some, Option.some.injEq, Bool.not_eq_true] at h
    exact ⟨caller, hCaller, h.1, h.2.symm⟩
  · cases h

theorem move_cases (m : Machine) (made : Move) :
    m.move made = m ∨ (∃ flow room, made = .call flow room) ∨
      ∃ i flow room phase after shared, m.callers[i]? = some ⟨flow, room, phase⟩ ∧
        Turn m i flow room made phase after shared ∧ m.move made = shared.setPhase i after := by
  cases made with
  | call flow room => exact .inr (.inl ⟨flow, room, rfl⟩)
  | step i =>
    cases hStep : m.step? i with
    | none => exact .inl (by rw [move, hStep, Option.getD_none])
    | some next =>
      cases hCaller : m.callers[i]? with
      | none => simp [step?, hCaller] at hStep
      | some caller =>
        obtain ⟨after, shared, hTurn, hNext⟩ := step?_eq_some hCaller hStep
        refine .inr (.inr ⟨i, _, _, caller.phase, after, shared, hCaller, hTurn, ?_⟩)
        rw [move, hStep, Option.getD_some, hNext]
  | answer i answer =>
    cases hAnswer : m.answer? i answer with
    | none => exact .inl (by rw [move, hAnswer, Option.getD_none])
    | some next =>
      obtain ⟨flow, room, attempt, after, shared, hCaller, hTurn, hNext⟩ := answer?_eq_some hAnswer
      refine .inr (.inr ⟨i, flow, room, _, after, shared, hCaller, hTurn, ?_⟩)
      rw [move, hAnswer, Option.getD_some, hNext]
  | drop i =>
    cases hDrop : m.drop? i with
    | none => exact .inl (by rw [move, hDrop, Option.getD_none])
    | some next =>
      obtain ⟨caller, hCaller, hLive, hNext⟩ := drop?_eq_some hDrop
      refine .inr (.inr ⟨i, _, _, caller.phase, _, m, hCaller, .drop hLive, ?_⟩)
      rw [move, hDrop, Option.getD_some, hNext]

end Machine

end DeviceTrust.Resolution
