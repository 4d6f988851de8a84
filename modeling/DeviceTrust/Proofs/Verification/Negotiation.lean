import DeviceTrust.Proofs.Verification.Restoration
import Mathlib.Data.List.Basic
import Mathlib.Data.List.Induction
/-! # Agreed methods

Once both sides have named their methods a request is ready, and so it should stay until it is over. A
report that the request was sent takes it back to pending, though, without a look at the methods, which
are kept. It stays like that until methods are named again, or until it is over.
-/

namespace DeviceTrust.Request

def Named (request : Request) : Prop :=
  request.theirMethods.isSome = true ∧ request.ourMethods.isSome = true

/-- The methods that were named decide the state of a request that is not over. -/
def Negotiated (request : Request) : Prop :=
  request.state.isTerminal = false →
    request.state = agreed request.theirMethods request.ourMethods

/-- What comes of some reports was negotiated, and is not pending if methods were agreed on before. -/
def StaysAgreed (request : Request) (updates : List RequestUpdate) : Prop :=
  (life.follow request updates).Negotiated ∧
    ∀ before, before <+: updates → (life.follow request before).Named →
      (life.follow request updates).state ≠ .pending

/-- The report that it was sent came when the request was ready, and no other report came since. -/
def Reopened (request : Request) (updates : List RequestUpdate) : Prop :=
  ∃ before after, updates = before ++ .requested :: after ∧
    (life.follow request before).state = .ready ∧ ∀ update ∈ after, update = .requested

/-- The request is pending, although both sides have named their methods. -/
def Lapsed (request : Request) : Prop := request.state = .pending ∧ request.Named

variable {request : Request} {info : RequestInfo} {update : RequestUpdate}
  {updates : List RequestUpdate} {ownUser : UserId} {defaultMethods : List Method}

theorem agreed_eq_ready_iff :
    agreed request.theirMethods request.ourMethods = .ready ↔ request.Named := by
  rw [agreed, Named, ← Bool.and_eq_true_iff]
  split
  · exact iff_of_true rfl ‹_›
  · refine iff_of_false (fun hReady => ?_) ‹_›
    cases hReady

theorem state_of_live (h : request.state.isTerminal = false) :
    request.state = .pending ∨ request.state = .ready := by
  revert h
  cases request.state with
  | pending => exact fun _ => .inl rfl
  | ready => exact fun _ => .inr rfl
  | _ => exact nofun

theorem state_ne_of_terminal {state : RequestState} (h : request.state.isTerminal = true)
    (hLive : state.isTerminal = false) : request.state ≠ state := by
  rintro rfl
  cases hLive.symm.trans h

theorem ofCancel_ne {state : RequestState} (hLive : state.isTerminal = false) (info : CancelInfo)
    (current : RequestState) : RequestState.ofCancel info current ≠ state := by
  rintro rfl
  cases hLive.symm.trans (life.isTerminal_afterCancel info current)

theorem not_lapsed_of_terminal (h : request.state.isTerminal = true) : ¬ request.Lapsed :=
  fun hLapsed => state_ne_of_terminal h rfl hLapsed.1

theorem negotiated_iff_not_lapsed (hNamed : request.state = .ready → request.Named) :
    request.Negotiated ↔ ¬ request.Lapsed := by
  rw [Negotiated, Lapsed, not_and]
  cases hOver : request.state.isTerminal with
  | true =>
    refine iff_of_true (fun hLive => ?_) fun hPending =>
      absurd hPending (state_ne_of_terminal hOver rfl)
    cases hLive
  | false =>
    rw [imp_iff_right rfl]
    rcases state_of_live hOver with hState | hState
    · rw [hState, imp_iff_right rfl, ← agreed_eq_ready_iff]
      constructor
      · intro hAgreed hReady
        cases hAgreed.trans hReady
      · exact fun hNotReady => (agreed_of_ne_ready hNotReady).symm
    · rw [hState]
      refine iff_of_true (agreed_eq_ready_iff.mpr (hNamed hState)).symm fun hPending => ?_
      cases hPending

/-! ## One report -/

theorem Named.apply (h : request.Named) (update : RequestUpdate) :
    (request.apply update).1.Named := by
  rw [Request.apply]
  split
  · exact h
  · cases update with
    | ready => exact ⟨rfl, rfl⟩
    | _ => exact h

theorem named_apply_of_ready (hReady : (request.apply update).1.state = .ready) :
    (request.apply update).1.Named := by
  cases hOver : request.state.isTerminal with
  | true =>
    have hSame : request.apply update = (request, false) :=
      life.apply_of_terminal request update hOver
    rw [hSame] at hReady
    exact absurd hReady (state_ne_of_terminal hOver rfl)
  | false =>
    rw [apply_of_live hOver] at hReady ⊢
    cases update with
    | ready => exact ⟨rfl, rfl⟩
    | cancelled cancel => exact absurd hReady (ofCancel_ne rfl cancel request.state)
    | _ => cases hReady

theorem lapsed_apply_iff (hNamed : request.state = .ready → request.Named) :
    (request.apply update).1.Lapsed ↔
      update = .requested ∧ (request.state = .ready ∨ request.Lapsed) := by
  cases hOver : request.state.isTerminal with
  | true =>
    have hSame : request.apply update = (request, false) :=
      life.apply_of_terminal request update hOver
    rw [hSame]
    refine iff_of_false (not_lapsed_of_terminal hOver) fun h => ?_
    exact h.2.elim (state_ne_of_terminal hOver rfl) (not_lapsed_of_terminal hOver)
  | false =>
    rw [apply_of_live hOver]
    cases update with
    | requested =>
      rw [and_iff_right rfl]
      constructor
      · rintro ⟨_, hBoth⟩
        exact (state_of_live hOver).symm.imp_right fun hPending => ⟨hPending, hBoth⟩
      · rintro (hReady | ⟨_, hBoth⟩)
        · exact ⟨rfl, hNamed hReady⟩
        · exact ⟨rfl, hBoth⟩
    | cancelled cancel =>
      exact iff_of_false (fun h => ofCancel_ne rfl cancel request.state h.1) nofun
    | _ => exact iff_of_false nofun nofun

/-! ## Any reports -/

theorem Named.follow (h : request.Named) (updates : List RequestUpdate) :
    (life.follow request updates).Named := by
  induction updates generalizing request with
  | nil => exact h
  | cons update rest ih => exact ih (h.apply update)

theorem named_ofInfo_of_ready (ownUser : UserId) (defaultMethods : List Method) (info : RequestInfo)
    (hReady : (ofInfo ownUser defaultMethods info).state = .ready) :
    (ofInfo ownUser defaultMethods info).Named := by
  cases recorded_ofInfo ownUser defaultMethods info with
  | live hState hInfo => exact agreed_eq_ready_iff.mp (hState.symm.trans hReady)
  | accepted hState => cases hState.symm.trans hReady
  | cancelled cancel hInfo hState =>
    exact absurd (hState.symm.trans hReady) (ofCancel_ne rfl cancel _)

theorem named_follow_of_ready (hNamed : request.state = .ready → request.Named) :
    (life.follow request updates).state = .ready → (life.follow request updates).Named := by
  induction updates generalizing request with
  | nil => exact hNamed
  | cons update rest ih => exact ih named_apply_of_ready

theorem not_reopened_nil : ¬ request.Reopened [] := by
  rintro ⟨before, after, hUpdates, _⟩
  cases List.append_eq_nil_iff.mp hUpdates.symm |>.2

theorem reopened_concat : request.Reopened (updates ++ [update]) ↔
    update = .requested ∧
      ((life.follow request updates).state = .ready ∨ request.Reopened updates) := by
  constructor
  · rintro ⟨before, after, hUpdates, hReady, hAfter⟩
    obtain rfl | ⟨earlier, last, rfl⟩ := List.eq_nil_or_concat' after
    · obtain ⟨rfl, rfl⟩ := List.append_singleton_inj.mp hUpdates
      exact ⟨rfl, .inl hReady⟩
    · rw [← List.cons_append, ← List.append_assoc] at hUpdates
      obtain ⟨rfl, rfl⟩ := List.append_singleton_inj.mp hUpdates
      refine ⟨hAfter update (List.mem_append_right _ (List.mem_singleton_self update)), .inr ?_⟩
      exact ⟨before, earlier, rfl, hReady, fun other hOther =>
        hAfter other (List.mem_append_left _ hOther)⟩
  · rintro ⟨rfl, hReady | ⟨before, after, rfl, hReady, hAfter⟩⟩
    · exact ⟨updates, [], rfl, hReady, nofun⟩
    · refine ⟨before, after ++ [.requested], by simp, hReady, fun other hOther => ?_⟩
      exact (List.mem_append.mp hOther).elim (hAfter other) List.mem_singleton.mp

theorem lapsed_follow_iff (hNamed : request.state = .ready → request.Named)
    (hStart : ¬ request.Lapsed) :
    (life.follow request updates).Lapsed ↔ request.Reopened updates := by
  induction updates using List.reverseRecOn with
  | nil => exact iff_of_false hStart not_reopened_nil
  | append_singleton before update ih =>
    rw [reopened_concat, ← ih, Lifecycle.follow_append]
    exact lapsed_apply_iff (named_follow_of_ready hNamed)

theorem not_lapsed_ofInfo (ownUser : UserId) (defaultMethods : List Method) (info : RequestInfo) :
    ¬ (ofInfo ownUser defaultMethods info).Lapsed := by
  rintro ⟨hPending, hBoth⟩
  cases recorded_ofInfo ownUser defaultMethods info with
  | live hState hInfo =>
    cases hPending.symm.trans (hState.trans (agreed_eq_ready_iff.mpr hBoth))
  | accepted hState => cases hState.symm.trans hPending
  | cancelled cancel hInfo hState =>
    exact absurd (hState.symm.trans hPending) (ofCancel_ne rfl cancel _)

/-- Whatever is reported of a request, the methods that were named decide its state until it is over,
except after a report that it was sent came when it was ready. -/
theorem staysAgreed_iff_not_reopened (ownUser : UserId) (defaultMethods : List Method)
    (info : RequestInfo) (updates : List RequestUpdate) :
    (ofInfo ownUser defaultMethods info).StaysAgreed updates ↔
      ¬ (ofInfo ownUser defaultMethods info).Reopened updates := by
  have hNamed := named_ofInfo_of_ready ownUser defaultMethods info
  rw [StaysAgreed, negotiated_iff_not_lapsed (named_follow_of_ready hNamed),
    lapsed_follow_iff hNamed (not_lapsed_ofInfo ownUser defaultMethods info)]
  refine and_iff_left_of_imp fun hKept before hPrefix hBoth hPending => hKept ?_
  -- Methods once named stay so, and a pending request with both named has lapsed.
  obtain ⟨after, rfl⟩ := hPrefix
  rw [← lapsed_follow_iff hNamed (not_lapsed_ofInfo ownUser defaultMethods info)]
  refine ⟨hPending, ?_⟩
  rw [Lifecycle.follow_append]
  exact hBoth.follow after

open Sample in
theorem reopened_request_is_pending :
    let request := life.follow unanswered [.ready [.sas] [.sas] none, .requested]
    request.state = .pending ∧ request.theirMethods = some [.sas] ∧
      request.ourMethods = some [.sas] ∧
      ¬ unanswered.StaysAgreed [.ready [.sas] [.sas] none, .requested] :=
  ⟨rfl, rfl, rfl, fun hAgreed => nomatch hAgreed.1 rfl⟩

end DeviceTrust.Request
