import DeviceTrust.Proofs.History.Alone
import DeviceTrust.Proofs.History.Marks
import DeviceTrust.Proofs.History.SingleFlight
import Mathlib.Data.List.Induction
/-! # What becomes of a failure

A failed attempt is marked, and then taken off by its owner. A call that joined it in between shares the
failure, and a call that comes later asks anew. A call that is dropped between the two leaves the mark
in flight, where nobody takes it off: from there on every call for the flow shares a failure of long
ago, and none asks.
-/

namespace DeviceTrust.Resolution.Machine

open Phase

def Happens (start : Machine) (moves : List Move) (p : Machine → Move → Prop) : Prop :=
  ∃ before made after, moves = before ++ made :: after ∧ p (start.play before) made

/-- A call for the flow is dropped when its query has failed, before it takes its attempt off. -/
def Spoils (flow : EventId) (m : Machine) (made : Move) : Prop :=
  ∃ i attempt error, made = .drop i ∧ m.At i flow (.failing attempt error)

def Fails (i : Nat) (flow : EventId) (m : Machine) (made : Move) : Prop :=
  ∃ attempt error, made = .answer i (.error error) ∧ m.At i flow (.querying attempt)

def Live (m : Machine) (i : Nat) (flow : EventId) : Prop :=
  ∃ phase, m.At i flow phase ∧ phase.isOver = false

/-- At some moment of the run both calls were under way, and at some moment the query of the second
one failed. -/
def MetFailure (start : Machine) (moves : List Move) (i j : Nat) (flow : EventId) : Prop :=
  i ≠ j ∧ start.Happens moves (Fails j flow) ∧
    ∃ moment, moment <+: moves ∧ (start.play moment).Live i flow ∧ (start.play moment).Live j flow

def Quiet (m : Machine) (flow : EventId) : Prop :=
  m.archive.outcome? flow = none ∧ ∀ i, ¬ m.Live i flow

/-- A new call that runs alone asks the transport and returns what it answers. -/
def AsksAnew (m : Machine) (flow : EventId) : Prop :=
  ∀ room answer, (m.resolve answer flow room).queries = m.queries ++ [(room, flow)] ∧
    (m.resolve answer flow room).result? m.callers.size = some (m.archive.settle flow answer).1

def RemembersFailure (m : Machine) (flow : EventId) : Prop :=
  ∀ room answer, (m.resolve answer flow room).queries = m.queries ∧
    (m.resolve answer flow room).result? m.callers.size = some (.error .concurrentFailed)

/-- The attempt in flight is marked as failed, and nobody is left who would take it off. -/
def Stuck (m : Machine) (flow : EventId) : Prop :=
  ∃ attempt, m.inflight[flow]? = some attempt ∧ attempt ∈ m.failures ∧
    ∀ i other phase, m.At i other phase → phase.owned? ≠ some attempt

variable {m start : Machine} {i j : Nat} {flow other : EventId} {phase : Phase} {made : Move}
  {moves : List Move} {attempt : Attempt} {p : Machine → Move → Prop}

theorem quiet_of_all_over (hOutcome : m.archive.outcome? flow = none)
    (hOver : m.callers.all (·.phase.isOver) = true) : m.Quiet flow := by
  refine ⟨hOutcome, ?_⟩
  rintro i ⟨phase, ⟨room, hCaller⟩, hLive⟩
  cases (Array.all_eq_true'.mp hOver _ (Array.mem_of_getElem? hCaller)).symm.trans hLive

/-! ## Moments of a run -/

theorem happens_concat :
    start.Happens (moves ++ [made]) p ↔ start.Happens moves p ∨ p (start.play moves) made := by
  constructor
  · rintro ⟨before, first, after, hSplit, hMoment⟩
    rcases List.eq_nil_or_concat after with rfl | ⟨rest, last, rfl⟩
    · obtain ⟨rfl, hMade⟩ := List.append_inj' hSplit rfl
      cases hMade
      exact .inr hMoment
    · have hFront : moves ++ [made] = (before ++ first :: rest) ++ [last] := by simpa using hSplit
      exact .inl ⟨before, first, rest, (List.append_inj' hFront rfl).1, hMoment⟩
  · rintro (⟨before, first, after, rfl, hMoment⟩ | hMoment)
    · exact ⟨before, first, after ++ [made], by simp, hMoment⟩
    · exact ⟨moves, made, [], rfl, hMoment⟩

theorem MetFailure.concat (h : MetFailure start moves i j flow) (made : Move) :
    MetFailure start (moves ++ [made]) i j flow := by
  obtain ⟨hNe, hFails, moment, hMoment, hBoth⟩ := h
  exact ⟨hNe, happens_concat.mpr (.inl hFails), moment, hMoment.trans (List.prefix_append moves [made]),
    hBoth⟩

/-! ## Stuck attempts -/

theorem Marked.stuck_move (h : m.Marked) (hStuck : m.Stuck flow) : (m.move made).Stuck flow := by
  obtain ⟨attempt, hAttempt, hMem, hNobody⟩ := hStuck
  refine ⟨attempt, ?_, mem_failures_move hMem, ?_⟩
  · rcases h.getElem?_inflight_move hAttempt with hKept | ⟨i, phase, hAt, hOwned | hPast⟩
    · exact hKept
    · exact absurd hOwned (hNobody i flow phase hAt)
    · exact absurd hMem (h.unmarked i flow phase attempt hAt (unmarked?_of_past? hPast))
  · intro i other phase hAt hOwned
    rcases at_move_cases hAt with hOld | rfl | ⟨room, before, shared, hBefore, hTurn⟩
    · exact hNobody i other phase hOld hOwned
    · cases hOwned
    · rcases hTurn.owned?_cases hOwned with hOwner | rfl
      · exact hNobody i other before hBefore hOwner
      · exact Nat.lt_irrefl _ (h.made _ hMem)

theorem Marked.stuck_of_spoils (h : m.Marked) (hSpoils : Spoils flow m made) :
    (m.move made).Stuck flow := by
  obtain ⟨i, attempt, error, rfl, hAt⟩ := hSpoils
  have hMove : m.move (.drop i) = m.setPhase i .dropped := by
    obtain ⟨room, hCaller⟩ := hAt
    simp [Machine.move, drop?, hCaller, isOver]
  rw [hMove]
  refine ⟨attempt, (h.fits i flow _ hAt).inflight attempt rfl, h.failing i flow attempt error hAt, ?_⟩
  intro j other phase hOther hOwned
  rcases at_setPhase_cases hAt hOther with ⟨_, _, rfl⟩ | ⟨hNe, hOld⟩
  · cases hOwned
  · exact (h.apart i j flow other _ phase hNe.symm hAt hOld).owned attempt rfl hOwned

/-- Unless it is stuck, a marked attempt in flight has an owner, who is about to take it off. -/
theorem Marked.stuck_or_failing (h : m.Marked) (hAttempt : m.inflight[flow]? = some attempt)
    (hMem : attempt ∈ m.failures) :
    m.Stuck flow ∨ ∃ i error, m.At i flow (.failing attempt error) := by
  by_cases hOwner : ∃ i other phase, m.At i other phase ∧ phase.owned? = some attempt
  · obtain ⟨i, other, phase, hAt, hOwned⟩ := hOwner
    have hOther := (h.fits i other phase hAt).inflight attempt hOwned
    obtain rfl := h.ofOneFlow flow other attempt hAttempt hOther
    rcases owned?_eq_some hOwned with hUnmarked | ⟨error, rfl⟩
    · exact absurd hMem (h.unmarked i flow phase attempt hAt hUnmarked)
    · exact .inr ⟨i, error, hAt⟩
  · refine .inl ⟨attempt, hAttempt, hMem, fun i other phase hAt hOwned => ?_⟩
    exact hOwner ⟨i, other, phase, hAt, hOwned⟩

theorem Marked.stuck_of_move (h : m.Marked) (hStuck : (m.move made).Stuck flow) :
    m.Stuck flow ∨ Spoils flow m made := by
  obtain ⟨attempt, hAttempt, hMem, hNobody⟩ := hStuck
  have hOld : m.inflight[flow]? = some attempt := by
    rcases of_getElem?_inflight_move hAttempt with hOld | ⟨_, i, hClaiming⟩
    · exact hOld
    · exact absurd rfl (hNobody i flow _ hClaiming)
  have hMarked : attempt ∈ m.failures := by
    rcases of_mem_failures_move hMem with hMarked | ⟨i, other, error, rfl, hQuerying⟩
    · exact hMarked
    · exact absurd rfl (hNobody i other _ (at_move_refuse error hQuerying).1)
  rcases h.stuck_or_failing hOld hMarked with hStuck | ⟨i, error, hAt⟩
  · exact .inl hStuck
  · -- The owner is gone, so it is the one that moved, and it did not take the attempt off.
    have hMoved : made.mover? = some i := by
      by_contra hOther
      exact hNobody i flow _ (at_move_of_mover?_ne hAt hOther) rfl
    rcases m.move_cases made with hSame | ⟨_, _, rfl⟩ |
      ⟨j, _, room, phase, after, shared, hCaller, hTurn, hMove⟩
    · rw [hSame] at hNobody
      exact absurd rfl (hNobody i flow _ hAt)
    · cases hMoved
    · cases hMoved.symm.trans hTurn.mover?_eq
      obtain ⟨rfl, rfl⟩ := hAt.unique ⟨room, hCaller⟩
      cases hTurn with
      | fail hFree =>
        rw [hMove] at hAttempt
        exact absurd rfl (Table.of_getElem?_erase_eq_some hAttempt).1
      | drop hLive => exact .inr ⟨i, attempt, error, rfl, hAt⟩

theorem stuck_play_iff (archive : Archive) (moves : List Move) (flow : EventId) :
    ((new archive).play moves).Stuck flow ↔ (new archive).Happens moves (Spoils flow) := by
  induction moves using List.reverseRecOn with
  | nil =>
    constructor
    · rintro ⟨attempt, hAttempt, _⟩
      simp [play, new] at hAttempt
    · rintro ⟨before, made, after, hSplit, _⟩
      simp at hSplit
  | append_singleton moves made ih =>
    have hMarked : ((new archive).play moves).Marked := (marked_new archive).play moves
    rw [play_concat, happens_concat, ← ih]
    constructor
    · exact hMarked.stuck_of_move
    · rintro (hStuck | hSpoils)
      · exact hMarked.stuck_move hStuck
      · exact hMarked.stuck_of_spoils hSpoils

/-! ## A call that comes later -/

theorem Marked.isHeld_of_quiet (h : m.Marked) (hQuiet : m.Quiet flow)
    (hAttempt : m.inflight[flow]? = some attempt) : m.isHeld attempt = false := by
  rw [isHeld, Array.any_eq_false']
  intro caller hMem hHeld
  obtain ⟨i, hCaller⟩ := Array.getElem?_of_mem hMem
  have hAt : m.At i caller.flow caller.phase := ⟨caller.room, hCaller⟩
  have hHolds : caller.phase.held? = some attempt := eq_of_beq hHeld
  have hOwn := (h.fits i caller.flow caller.phase hAt).inflight attempt (owned?_of_held? hHolds)
  rw [h.ofOneFlow flow caller.flow attempt hAttempt hOwn] at hQuiet
  exact hQuiet.2 i ⟨caller.phase, hAt, isOver_of_held? hHolds⟩

theorem remembersFailure_of_stuck (h : m.Marked) (hQuiet : m.Quiet flow)
    (hFree : m.attemptsLocked = false) (hStuck : m.Stuck flow) : m.RemembersFailure flow := by
  obtain ⟨attempt, hAttempt, hMem, _⟩ := hStuck
  intro room answer
  rw [resolve_of_failed room answer hFree hQuiet.1 hAttempt (h.isHeld_of_quiet hQuiet hAttempt) hMem]
  exact ⟨rfl, result?_joined_finished _ rfl⟩

theorem asksAnew_of_not_stuck (h : m.Marked) (hQuiet : m.Quiet flow)
    (hFree : m.attemptsLocked = false) (hStuck : ¬ m.Stuck flow) : m.AsksAnew flow := by
  intro room answer
  cases hAttempt : m.inflight[flow]? with
  | none =>
    have hSize : (m.settled flow room answer).callers.size = m.callers.size := by rw [callers_settled]
    rw [resolve_of_fresh room answer hFree hQuiet.1 hAttempt]
    exact ⟨queries_settled m flow room answer, result?_joined_finished _ hSize⟩
  | some attempt =>
    have hUnmarked : attempt ∉ m.failures := by
      intro hMem
      rcases h.stuck_or_failing hAttempt hMem with hOld | ⟨i, error, hAt⟩
      · exact hStuck hOld
      · exact hQuiet.2 i ⟨_, hAt, rfl⟩
    have hHeld := h.isHeld_of_quiet hQuiet hAttempt
    have hSize : ((m.cleared flow).settled flow room answer).callers.size = m.callers.size := by
      rw [callers_settled]
      rfl
    rw [resolve_of_abandoned room answer hFree hQuiet.1 hAttempt hHeld hUnmarked]
    exact ⟨queries_settled (m.cleared flow) flow room answer, result?_joined_finished _ hSize⟩

/-! ## A call that shares a failure -/

theorem fails_of_failing {archive : Archive} {error : TransportError}
    (h : ((new archive).play moves).At i flow (.failing attempt error)) :
    (new archive).Happens moves (Fails i flow) := by
  induction moves using List.reverseRecOn with
  | nil => exact (not_at_new h).elim
  | append_singleton moves made ih =>
    rw [play_concat] at h
    rw [happens_concat]
    rcases at_move_cases h with hOld | hEntering | ⟨room, phase, shared, hBefore, hTurn⟩
    · exact .inl (ih hOld)
    · cases hEntering
    · cases hTurn
      exact .inr ⟨attempt, error, rfl, hBefore⟩

theorem metFailure_of_waiting {archive : Archive}
    (h : ((new archive).play moves).At i flow (.waiting attempt))
    (hMem : attempt ∈ ((new archive).play moves).failures) :
    (new archive).Happens moves (Spoils flow) ∨ ∃ j, MetFailure (new archive) moves i j flow := by
  induction moves using List.reverseRecOn with
  | nil => exact (not_at_new h).elim
  | append_singleton moves made ih =>
    have hMarked : ((new archive).play moves).Marked := (marked_new archive).play moves
    have hPrefix : moves <+: moves ++ [made] := List.prefix_append moves [made]
    rw [play_concat] at h hMem
    rw [happens_concat]
    rcases at_move_cases h with hOld | hEntering | ⟨room, phase, shared, hBefore, hTurn⟩
    · rcases of_mem_failures_move hMem with hOldMem | ⟨j, other, error, rfl, hQuerying⟩
      · rcases ih hOld hOldMem with hSpoiled | ⟨j, hMet⟩
        · exact .inl (.inl hSpoiled)
        · exact .inr ⟨j, hMet.concat made⟩
      · -- It was waiting when the query failed.
        obtain rfl := hMarked.sameFlow i j flow other _ _ attempt hOld hQuerying rfl rfl
        have hFailed : (new archive).Happens (moves ++ [.answer j (.error error)]) (Fails j flow) :=
          happens_concat.mpr (.inr ⟨attempt, error, rfl, hQuerying⟩)
        refine .inr ⟨j, hOld.ne hQuerying nofun, hFailed, moves, hPrefix, ?_⟩
        exact ⟨⟨_, hOld, rfl⟩, _, hQuerying, rfl⟩
    · cases hEntering
    · cases hTurn with
      | join hOutcome hAttempt =>
        have hOldMem : attempt ∈ ((new archive).play moves).failures := by
          rcases of_mem_failures_move hMem with hOldMem | ⟨_, _, _, hMade, _⟩
          · exact hOldMem
          · cases hMade
        -- It joins an attempt that has failed, whose owner has yet to take it off or was dropped.
        rcases hMarked.stuck_or_failing hAttempt hOldMem with hStuck | ⟨j, error, hFailing⟩
        · exact .inl (.inl ((stuck_play_iff archive moves flow).mp hStuck))
        · have hFailed : (new archive).Happens (moves ++ [.step i]) (Fails j flow) :=
            happens_concat.mpr (.inl (fails_of_failing hFailing))
          refine .inr ⟨j, hBefore.ne hFailing nofun, hFailed, moves, hPrefix, ?_⟩
          exact ⟨⟨_, hBefore, rfl⟩, _, hFailing, rfl⟩

theorem metFailure_of_concurrentFailed {archive : Archive}
    (h : ((new archive).play moves).At i flow (.finished (.error .concurrentFailed))) :
    (new archive).Happens moves (Spoils flow) ∨ ∃ j, MetFailure (new archive) moves i j flow := by
  induction moves using List.reverseRecOn with
  | nil => exact (not_at_new h).elim
  | append_singleton moves made ih =>
    rw [play_concat] at h
    have hBefore : (new archive).Happens moves (Spoils flow) ∨
        ∃ j, MetFailure (new archive) moves i j flow := by
      rcases at_move_cases h with hOld | hEntering | ⟨room, phase, shared, hBefore, hTurn⟩
      · exact ih hOld
      · cases hEntering
      · cases hTurn with
        | shareFailure hFree hFailed =>
          exact metFailure_of_waiting hBefore (List.contains_iff_mem.mp hFailed)
    rcases hBefore with hSpoiled | ⟨j, hMet⟩
    · exact .inl (happens_concat.mpr (.inl hSpoiled))
    · exact .inr ⟨j, hMet.concat made⟩

/-- However calls are made, interleaved, answered and dropped: once no call for a flow is under way, a
new one asks the transport and returns its answer, unless a call for the flow was once dropped between
the failure of its query and its end. After such a drop none ever asks; without one, a call only shares
the failure of a call that it met. While a call for another flow has the lock on the attempts, one that
runs alone does not come to its end. -/
theorem failure_forgotten_unless_spoiled (ownUser : UserId) (sorts : Bool) (moves : List Move)
    (flow : EventId) :
    let start := new (.empty ownUser sorts)
    let m := start.play moves
    let spoiled := start.Happens moves (Spoils flow)
    (m.Quiet flow → m.attemptsLocked = false →
        (¬ spoiled → m.AsksAnew flow) ∧ (spoiled → m.RemembersFailure flow)) ∧
      (m.attemptsLocked = true → ∀ room answer,
        (m.resolve answer flow room).result? m.callers.size = none) ∧
      ∀ i, m.At i flow (.finished (.error .concurrentFailed)) →
        spoiled ∨ ∃ j, MetFailure start moves i j flow := by
  intro start m spoiled
  have hMarked : m.Marked := (marked_new _).play moves
  have hStuck : m.Stuck flow ↔ spoiled := stuck_play_iff _ moves flow
  refine ⟨fun hQuiet hFree => ⟨fun hNot => ?_, fun hSpoiled => ?_⟩, fun hLocked room answer => ?_,
    fun i hAt => metFailure_of_concurrentFailed hAt⟩
  · exact asksAnew_of_not_stuck hMarked hQuiet hFree (mt hStuck.mp hNot)
  · exact remembersFailure_of_stuck hMarked hQuiet hFree (hStuck.mpr hSpoiled)
  · rw [resolve_of_locked room answer hLocked, result?, getElem?_callers_joined]

namespace Sample

/-- A call joins another one before its query fails, and shares the failure. -/
def sharing : List Move :=
  [.call request .lobby, .step 0, .step 0, .step 0, .call request .lobby, .step 1, .step 1,
    .answer 0 (.error ⟨"timeout"⟩), .step 0, .step 1]

def shared : Machine := (new (.empty .alice false)).play sharing

def picnic : EventId := ⟨"$picnic", by decide⟩

/-- While a call for another flow has the lock on the attempts, a call whose query has failed waits for
it to take its attempt off, and is dropped. -/
def spoiling : List Move :=
  [.call request .lobby, .step 0, .step 0, .step 0, .call picnic .lobby, .step 1,
    .answer 0 (.error ⟨"timeout"⟩), .step 0, .drop 0,
    .step 1, .step 1, .answer 1 (.ok [done]), .step 1, .step 1]

def spoiled : Machine := (new (.empty .alice false)).play spoiling

end Sample

open Sample in
theorem asks_after_shared_failure :
    shared.At 1 request (.finished (.error .concurrentFailed)) ∧
      (∃ j, MetFailure (new (.empty .alice false)) sharing 1 j request) ∧ shared.AsksAnew request := by
  have hShared : shared.At 1 request (.finished (.error .concurrentFailed)) := ⟨.lobby, by cbv⟩
  have hUnspoiled : ¬ (new (.empty .alice false)).Happens sharing (Spoils request) := by
    rintro ⟨before, made, after, hSplit, i, attempt, error, rfl, _⟩
    have hDrop : Move.drop i ∈ sharing := by simp [hSplit]
    simp [sharing] at hDrop
  have hQuiet : shared.Quiet request := quiet_of_all_over (by cbv) (by cbv)
  obtain ⟨hLater, -, hMet⟩ := failure_forgotten_unless_spoiled .alice false sharing request
  exact ⟨hShared, (hMet 1 hShared).resolve_left hUnspoiled, (hLater hQuiet (by cbv)).1 hUnspoiled⟩

open Sample in
theorem dropped_failure_is_remembered :
    spoiled.Quiet request ∧ spoiled.attemptsLocked = false ∧
      (spoiled.resolve (.ok [done]) request .lobby).queries = spoiled.queries ∧
      (spoiled.resolve (.ok [done]) request .lobby).result? 2 =
        some (.error .concurrentFailed) ∧
      ¬ spoiled.AsksAnew request := by
  have hQueries : (spoiled.resolve (.ok [done]) request .lobby).queries = spoiled.queries := by cbv
  have hQuiet : spoiled.Quiet request := quiet_of_all_over (by cbv) (by cbv)
  refine ⟨hQuiet, by cbv, hQueries, by cbv, fun hAsks => ?_⟩
  have hAsked := (hAsks .lobby (.ok [done])).1
  rw [hQueries] at hAsked
  simp at hAsked

end DeviceTrust.Resolution.Machine
