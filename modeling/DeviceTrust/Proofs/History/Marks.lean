import DeviceTrust.Proofs.History.Ownership
/-! # Marks of failure

Which attempts are marked as failed, and what calls know of the marks. An attempt belongs to one flow.
Its owner marks it just before it takes it off, and whoever goes on after an attempt of somebody else
found it without a mark. Together with `Sound` this is kept by every move.
-/

namespace DeviceTrust.Resolution

def Phase.unmarked? : Phase → Option Attempt
  | claiming attempt | querying attempt | recording attempt _ | leaving attempt _
  | rechecking attempt | withdrawing attempt => some attempt
  | _ => none

theorem Phase.owned?_eq_some {phase : Phase} {attempt : Attempt} (h : phase.owned? = some attempt) :
    phase.unmarked? = some attempt ∨ ∃ error, phase = .failing attempt error := by
  cases phase with
  | failing owned error => exact .inr ⟨error, congrArg (Phase.failing · error) (Option.some.inj h)⟩
  | claiming | querying | recording | leaving => exact .inl h
  | _ => cases h

theorem Phase.unmarked?_eq_some {phase : Phase} {attempt : Attempt}
    (h : phase.unmarked? = some attempt) : phase.owned? = some attempt ∨ phase.past? = some attempt := by
  cases phase with
  | rechecking | withdrawing => exact .inr h
  | claiming | querying | recording | leaving => exact .inl h
  | _ => cases h

theorem Phase.unmarked?_of_past? {phase : Phase} {attempt : Attempt}
    (h : phase.past? = some attempt) : phase.unmarked? = some attempt := by
  cases phase with
  | rechecking | withdrawing => exact h
  | _ => cases h

theorem Phase.owned?_of_held? {phase : Phase} {attempt : Attempt}
    (h : phase.held? = some attempt) : phase.owned? = some attempt := by
  cases phase with
  | querying | recording | leaving | failing => exact h
  | _ => cases h

theorem Phase.isOver_of_held? {phase : Phase} {attempt : Attempt}
    (h : phase.held? = some attempt) : phase.isOver = false := by
  cases phase with
  | finished | dropped => cases h
  | _ => rfl

def Move.mover? : Move → Option Nat
  | call _ _ => none
  | step i | answer i _ | drop i => some i

namespace Machine

open Phase

variable {m shared : Machine} {i j : Nat} {flow other : EventId} {room : RoomId}
  {phase after found : Phase} {made : Move} {attempt : Attempt}

/-! ## What a move does to the shared state -/

theorem Turn.callers_eq (h : Turn m i flow room made phase after shared) :
    shared.callers = m.callers := by
  cases h with
  | withdraw =>
    rw [Machine.withdraw]
    split <;> rfl
  | _ => rfl

theorem Turn.mover?_eq (h : Turn m i flow room made phase after shared) : made.mover? = some i := by
  cases h <;> rfl

/-- The call that moved is where its turn took it; all others, but a new one, are where they were. -/
theorem at_move_cases (h : (m.move made).At j other found) :
    m.At j other found ∨ found = .entering ∨
      ∃ room phase shared, m.At j other phase ∧ Turn m j other room made phase found shared := by
  rcases m.move_cases made with
    hSame | ⟨flow, room, rfl⟩ | ⟨i, flow, room, phase, after, shared, hTurn⟩
  · rw [hSame] at h
    exact .inl h
  · exact (at_call_cases h).elim (.inr ∘ .inl) .inl
  · obtain ⟨hCaller, hTurn, hMove⟩ := hTurn
    have hAt : shared.At i flow phase := ⟨room, hTurn.callers_eq ▸ hCaller⟩
    rw [hMove] at h
    rcases at_setPhase_cases hAt h with ⟨rfl, rfl, rfl⟩ | ⟨_, hOther⟩
    · exact .inr (.inr ⟨room, phase, shared, ⟨room, hCaller⟩, hTurn⟩)
    · obtain ⟨asked, hOther⟩ := hOther
      exact .inl ⟨asked, hTurn.callers_eq ▸ hOther⟩

/-- Apart from the calls, a move does to a machine what a turn does. -/
theorem shared_move_cases {α : Type} (read : Machine → α) (m : Machine) (made : Move)
    (hRead : ∀ (m : Machine) callers, read { m with callers := callers } = read m) :
    read (m.move made) = read m ∨ ∃ i flow room phase after shared, m.At i flow phase ∧
      Turn m i flow room made phase after shared ∧ read (m.move made) = read shared := by
  rcases m.move_cases made with
    hSame | ⟨flow, room, rfl⟩ | ⟨i, flow, room, phase, after, shared, hTurn⟩
  · exact .inl (congrArg read hSame)
  · exact .inl (hRead m _)
  · obtain ⟨hCaller, hTurn, hMove⟩ := hTurn
    refine .inr ⟨i, flow, room, phase, after, shared, ⟨room, hCaller⟩, hTurn, ?_⟩
    rw [hMove]
    exact hRead shared _

theorem Turn.failures_eq (h : Turn m i flow room made phase after shared) :
    shared.failures = m.failures ∨ ∃ attempt error, made = .answer i (.error error) ∧
      phase = .querying attempt ∧ shared.failures = attempt :: m.failures := by
  cases h with
  | refuse error => exact .inr ⟨_, error, rfl, rfl, rfl⟩
  | withdraw =>
    refine .inl ?_
    rw [Machine.withdraw]
    split <;> rfl
  | _ => exact .inl rfl

theorem Turn.getElem?_inflight_of_ne (h : Turn m i flow room made phase after shared)
    (hNe : flow ≠ other) : shared.inflight[other]? = m.inflight[other]? := by
  cases h with
  | start => exact Table.getElem?_insert_of_ne hNe
  | withdraw =>
    rw [Machine.withdraw]
    split
    · exact Table.getElem?_erase_of_ne hNe
    · rfl
  | leave | fail => exact Table.getElem?_erase_of_ne hNe
  | _ => rfl

theorem at_move_refuse (error : TransportError) (h : m.At i flow (.querying attempt)) :
    (m.move (.answer i (.error error))).At i flow (.failing attempt error) ∧
      attempt ∈ (m.move (.answer i (.error error))).failures := by
  obtain ⟨room, hCaller⟩ := h
  have hTurn : Turn m i flow room (.answer i (.error error)) (.querying attempt)
      (.failing attempt error) { m with failures := attempt :: m.failures } := .refuse error
  rw [move, hTurn.answer?_eq hCaller]
  exact ⟨at_setPhase_self ⟨room, hCaller⟩, List.mem_cons_self⟩

theorem mem_failures_move (h : attempt ∈ m.failures) : attempt ∈ (m.move made).failures := by
  rcases shared_move_cases failures m made fun _ _ => rfl with
    hSame | ⟨i, flow, room, phase, after, shared, -, hTurn, hShared⟩
  · rwa [hSame]
  · rw [hShared]
    rcases hTurn.failures_eq with hEq | ⟨_, _, _, _, hEq⟩
    · rwa [hEq]
    · rw [hEq]
      exact List.mem_cons_of_mem _ h

theorem of_mem_failures_move (h : attempt ∈ (m.move made).failures) : attempt ∈ m.failures ∨
    ∃ i flow error, made = .answer i (.error error) ∧ m.At i flow (.querying attempt) := by
  rcases shared_move_cases failures m made fun _ _ => rfl with
    hSame | ⟨i, flow, room, phase, after, shared, hAt, hTurn, hShared⟩
  · exact .inl (hSame ▸ h)
  · rw [hShared] at h
    rcases hTurn.failures_eq with hEq | ⟨marked, error, hMade, rfl, hEq⟩
    · exact .inl (hEq ▸ h)
    · rw [hEq, List.mem_cons] at h
      rcases h with rfl | hOld
      · exact .inr ⟨i, flow, error, hMade, hAt⟩
      · exact .inl hOld

theorem attempts_le_move (m : Machine) (made : Move) : m.attempts ≤ (m.move made).attempts := by
  rcases shared_move_cases attempts m made fun _ _ => rfl with
    hSame | ⟨i, flow, room, phase, after, shared, -, hTurn, hShared⟩
  · exact Nat.le_of_eq hSame.symm
  · rw [hShared]
    cases hTurn with
    | start => exact Nat.le_succ _
    | withdraw =>
      rw [Machine.withdraw]
      split <;> exact Nat.le_refl _
    | _ => exact Nat.le_refl _

theorem of_getElem?_inflight_move (h : (m.move made).inflight[other]? = some attempt) :
    m.inflight[other]? = some attempt ∨
      (attempt = m.attempts ∧ ∃ i, (m.move made).At i other (.claiming attempt)) := by
  rcases m.move_cases made with
    hSame | ⟨flow, room, rfl⟩ | ⟨i, flow, room, phase, after, shared, hTurn⟩
  · exact .inl (hSame ▸ h)
  · exact .inl h
  · obtain ⟨hCaller, hTurn, hMove⟩ := hTurn
    have hShared : shared.inflight[other]? = some attempt := by rwa [hMove] at h
    rw [hMove]
    cases hTurn with
    | start hOutcome hAttempt =>
      rcases Table.of_getElem?_insert_eq_some hShared with ⟨rfl, rfl⟩ | hOld
      · exact .inr ⟨rfl, i, at_setPhase_self ⟨room, hCaller⟩⟩
      · exact .inl hOld
    | withdraw =>
      rw [Machine.withdraw] at hShared
      split at hShared
      · exact .inl (Table.of_getElem?_erase_eq_some hShared).2
      · exact .inl hShared
    | leave | fail => exact .inl (Table.of_getElem?_erase_eq_some hShared).2
    | _ => exact .inl hShared

theorem at_move_of_mover?_ne (h : m.At i flow phase) (hOther : made.mover? ≠ some i) :
    (m.move made).At i flow phase := by
  rcases m.move_cases made with
    hSame | ⟨flow, room, rfl⟩ | ⟨j, _, _, _, after, shared, hCaller, hTurn, hMove⟩
  · rwa [hSame]
  · obtain ⟨asker, hCaller⟩ := h
    have hLt : i < m.callers.size := (Array.getElem?_eq_some_iff.mp hCaller).1
    exact ⟨asker, by rwa [move, call, Array.getElem?_push_lt hLt, ← Array.getElem?_eq_getElem hLt]⟩
  · have hNe : i ≠ j := fun hEq => hOther (hEq ▸ hTurn.mover?_eq)
    obtain ⟨asker, hCaller⟩ := h
    rw [hMove, at_setPhase_of_ne hNe]
    exact ⟨asker, hTurn.callers_eq ▸ hCaller⟩

/-- An attempt is only taken off by its owner, or by a call that found it over. -/
theorem Sound.getElem?_inflight_move (h : m.Sound) (hAttempt : m.inflight[flow]? = some attempt) :
    (m.move made).inflight[flow]? = some attempt ∨
      ∃ i phase, m.At i flow phase ∧ (phase.owned? = some attempt ∨ phase.past? = some attempt) := by
  rcases shared_move_cases inflight m made fun _ _ => rfl with
    hSame | ⟨i, other, room, phase, after, shared, hAt, hTurn, hShared⟩
  · rw [hSame]
    exact .inl hAttempt
  · rw [hShared]
    by_cases hFlow : other = flow
    · subst hFlow
      cases hTurn with
      | start hOutcome hNone => cases hNone.symm.trans hAttempt
      | @withdraw past hFree =>
        rw [Machine.withdraw]
        split
        · next hPast =>
          cases hPast.symm.trans hAttempt
          exact .inr ⟨i, _, hAt, .inr rfl⟩
        · exact .inl hAttempt
      | leave hFree | fail hFree =>
        have hOwned := (h.fits i other _ hAt).inflight _ rfl
        cases hOwned.symm.trans hAttempt
        exact .inr ⟨i, _, hAt, .inl rfl⟩
      | _ => exact .inl hAttempt
    · exact .inl ((hTurn.getElem?_inflight_of_ne hFlow).trans hAttempt)

/-! ## What is marked -/

structure Marked (m : Machine) : Prop extends m.Sound where
  ofOneFlow : ∀ (flow other : EventId) attempt, m.inflight[flow]? = some attempt →
    m.inflight[other]? = some attempt → flow = other
  sameFlow : ∀ i j flow other phase found attempt, m.At i flow phase → m.At j other found →
    phase.awaited? = some attempt → found.owned? = some attempt → flow = other
  made : ∀ attempt ∈ m.failures, attempt < m.attempts
  failing : ∀ i flow attempt error, m.At i flow (.failing attempt error) → attempt ∈ m.failures
  unmarked : ∀ i flow phase attempt, m.At i flow phase → phase.unmarked? = some attempt →
    attempt ∉ m.failures

theorem Turn.owned?_cases (h : Turn m i flow room made phase after shared)
    (hOwned : after.owned? = some attempt) : phase.owned? = some attempt ∨ attempt = m.attempts := by
  cases h with
  | start => exact .inr (Option.some.inj hOwned).symm
  | query | record | receive | refuse => exact .inl hOwned
  | _ => cases hOwned

theorem Turn.awaited?_cases (h : Turn m i flow room made phase after shared)
    (hAwaited : after.awaited? = some attempt) :
    phase.awaited? = some attempt ∨ m.inflight[flow]? = some attempt := by
  cases h with
  | join hOutcome hAttempt =>
    cases hAwaited
    exact .inr hAttempt
  | pass | takeOver => exact .inl hAwaited
  | _ => cases hAwaited

theorem Turn.unmarked?_cases (h : Turn m i flow room made phase after shared)
    (hUnmarked : after.unmarked? = some attempt) :
    phase.unmarked? = some attempt ∨ attempt ∉ m.failures ∨ attempt = m.attempts := by
  cases h with
  | start => exact .inr (.inr (Option.some.inj hUnmarked).symm)
  | pass hFree hFailed =>
    cases hUnmarked
    exact .inr (.inl fun hMem => by simp [hMem] at hFailed)
  | takeOver | query | record | receive => exact .inl hUnmarked
  | _ => cases hUnmarked

theorem Marked.sameFlow_move (h : m.Marked) (hNe : i ≠ j) (hAt : (m.move made).At i flow phase)
    (hOther : (m.move made).At j other found) (hAwaited : phase.awaited? = some attempt)
    (hOwned : found.owned? = some attempt) : flow = other := by
  rcases at_move_cases hAt with hOld | rfl | ⟨room, before, shared, hBefore, hTurn⟩
  · rcases at_move_cases hOther with hOldOther | rfl | ⟨_, before, _, hBefore, hTurn⟩
    · exact h.sameFlow i j flow other phase found attempt hOld hOldOther hAwaited hOwned
    · cases hOwned
    · rcases hTurn.owned?_cases hOwned with hOwner | rfl
      · exact h.sameFlow i j flow other phase before attempt hOld hBefore hAwaited hOwner
      · exact absurd ((h.fits i flow phase hOld).known _ hAwaited) (Nat.lt_irrefl _)
  · cases hAwaited
  · rcases at_move_cases hOther with hOldOther | rfl | ⟨_, _, _, _, hTurnOther⟩
    · rcases hTurn.awaited?_cases hAwaited with hWaiter | hAttempt
      · exact h.sameFlow i j flow other before found attempt hBefore hOldOther hWaiter hOwned
      · have hOwner := (h.fits j other found hOldOther).inflight attempt hOwned
        exact h.ofOneFlow flow other attempt hAttempt hOwner
    · cases hOwned
    · exact absurd (Option.some.inj (hTurn.mover?_eq.symm.trans hTurnOther.mover?_eq)) hNe

theorem Marked.unmarked_move (h : m.Marked) (hAt : (m.move made).At i flow phase)
    (hUnmarked : phase.unmarked? = some attempt) : attempt ∉ (m.move made).failures := by
  intro hMem
  rcases of_mem_failures_move hMem with hOld | ⟨j, other, error, rfl, hQuerying⟩
  · rcases at_move_cases hAt with hOldAt | rfl | ⟨room, before, shared, hBefore, hTurn⟩
    · exact h.unmarked i flow phase attempt hOldAt hUnmarked hOld
    · cases hUnmarked
    · rcases hTurn.unmarked?_cases hUnmarked with hBeforeUnmarked | hNot | rfl
      · exact h.unmarked i flow before attempt hBefore hBeforeUnmarked hOld
      · exact hNot hOld
      · exact Nat.lt_irrefl _ (h.made _ hOld)
  · -- The owner has just marked it, so nobody else owns it or has found it over.
    obtain ⟨hFailing, _⟩ := at_move_refuse error hQuerying
    by_cases hSame : j = i
    · subst hSame
      obtain ⟨_, rfl⟩ := hFailing.unique hAt
      cases hUnmarked
    · have hApart := (h.toSound.move _).apart j i other flow _ phase hSame hFailing hAt
      rcases unmarked?_eq_some hUnmarked with hOwned | hPast
      · exact hApart.owned attempt rfl hOwned
      · exact hApart.past attempt rfl hPast

theorem Marked.move (h : m.Marked) (made : Move) : (m.move made).Marked where
  toSound := h.toSound.move made
  ofOneFlow flow other attempt hFlow hOther := by
    rcases of_getElem?_inflight_move hFlow with hOld | ⟨rfl, i, hClaim⟩
    · rcases of_getElem?_inflight_move hOther with hOldOther | ⟨rfl, _⟩
      · exact h.ofOneFlow flow other attempt hOld hOldOther
      · exact absurd (h.known flow _ hOld) (Nat.lt_irrefl _)
    · rcases of_getElem?_inflight_move hOther with hOldOther | ⟨_, j, hClaimOther⟩
      · exact absurd (h.known other _ hOldOther) (Nat.lt_irrefl _)
      · by_cases hSame : i = j
        · subst hSame
          exact (hClaimOther.unique hClaim).1
        · have hApart := (h.toSound.move made).apart i j flow other _ _ hSame hClaim hClaimOther
          exact absurd rfl (hApart.owned m.attempts rfl)
  sameFlow i j flow other phase found attempt hAt hOther hAwaited hOwned := by
    by_cases hSame : i = j
    · subst hSame
      exact (hOther.unique hAt).1
    · exact h.sameFlow_move hSame hAt hOther hAwaited hOwned
  made attempt hMem := by
    refine Nat.lt_of_lt_of_le ?_ (m.attempts_le_move made)
    rcases of_mem_failures_move hMem with hOld | ⟨i, flow, error, _, hQuerying⟩
    · exact h.made attempt hOld
    · exact h.known flow attempt ((h.fits i flow _ hQuerying).inflight attempt rfl)
  failing i flow attempt error hAt := by
    rcases at_move_cases hAt with hOld | hEntering | ⟨room, phase, shared, hBefore, hTurn⟩
    · exact mem_failures_move (h.failing i flow attempt error hOld)
    · cases hEntering
    · cases hTurn
      exact (at_move_refuse error hBefore).2
  unmarked i flow phase attempt hAt hUnmarked := h.unmarked_move hAt hUnmarked

theorem marked_new (archive : Archive) : (new archive).Marked where
  toSound := sound_new archive
  ofOneFlow flow other attempt hFlow := by simp [new] at hFlow
  sameFlow _ _ _ _ _ _ _ hAt := (not_at_new hAt).elim
  made attempt hMem := by simp [new] at hMem
  failing _ _ _ _ hAt := (not_at_new hAt).elim
  unmarked _ _ _ _ hAt := (not_at_new hAt).elim

theorem Marked.play (h : m.Marked) (moves : List Move) : (m.play moves).Marked := by
  induction moves generalizing m with
  | nil => exact h
  | cons made rest ih => exact ih (h.move made)

end Machine

end DeviceTrust.Resolution
