import DeviceTrust.Proofs.History.Replay
/-! # How cancellations are told

A cancellation is judged twice. The live request looks at its code and origin and at whether somebody
had answered before; the history of the flow is read by code and sender alone. The two fall apart for
just one kind of flow, one that timed out after it was answered.
-/

namespace DeviceTrust

namespace HistoryEvent

variable {event : HistoryEvent}

def IsReady (event : HistoryEvent) : Prop := event.eventType = "m.key.verification.ready"

def Ends (event : HistoryEvent) : Prop :=
  event.eventType = "m.key.verification.done" ∨ event.eventType = "m.key.verification.cancel"

instance : DecidablePred IsReady := fun event =>
  inferInstanceAs (Decidable (event.eventType = _))

instance : DecidablePred Ends := fun event =>
  inferInstanceAs (Decidable (event.eventType = _ ∨ event.eventType = _))

theorem kind_of_isReady (h : event.IsReady) : event.kind = .ready := if_pos h

theorem kind_of_cancel {token : String} (hType : event.eventType = "m.key.verification.cancel")
    (hToken : event.HasToken token) : event.kind = .cancel (.ofToken token) := by
  rw [← hToken.cancelCode_eq]
  simp [kind, hType]

theorem kind_of_not_ends (hEnds : ¬ event.Ends) (hReady : ¬ event.IsReady) : event.kind = .other := by
  obtain ⟨hDone, hCancel⟩ := not_or.mp hEnds
  exact (if_neg hReady).trans ((if_neg hDone).trans (if_neg hCancel))

theorem exists_hasToken (event : HistoryEvent) : ∃ token, event.HasToken token := by
  by_cases h : ∃ token, event.content.get? "code" = some (.text token)
  · obtain ⟨token, hToken⟩ := h
    exact ⟨token, .given hToken⟩
  · exact ⟨"", .missing (not_exists.mp h)⟩

end HistoryEvent

/-- The flow came to its end by this cancel event with that token, after those earlier events. -/
structure CancelledBy (events earlier : List HistoryEvent) (event : HistoryEvent) (token : String) :
    Prop where
  split : ∃ later, events = earlier ++ event :: later
  open_before : ∀ before ∈ earlier, ¬ before.Ends
  cancels : event.eventType = "m.key.verification.cancel"
  token : event.HasToken token

theorem CancelledBy.earlier_eq {events earlier : List HistoryEvent} {event : HistoryEvent}
    {token : String} (h : CancelledBy events earlier event token) :
    earlier = events.takeWhile fun event => ¬ event.Ends := by
  obtain ⟨later, rfl⟩ := h.split
  have hOpen : ∀ before ∈ earlier, decide (¬ before.Ends) = true := by simpa using h.open_before
  have hEnds : event.Ends := .inr h.cancels
  rw [List.takeWhile_append_of_pos hOpen, List.takeWhile_cons_of_neg (by simpa using hEnds),
    List.append_nil]

namespace Outcome

variable {own : UserId} {events earlier later : List HistoryEvent} {event : HistoryEvent}
  {token : String} {reports : List RequestUpdate} {before : Outcome} {request : Request}

/-! ## What history shows -/

theorem fold_append_of_not_ends (h : ∀ event ∈ earlier, ¬ event.Ends) (rest : List HistoryEvent) :
    fold own before (earlier ++ rest) =
      fold own (if ∃ event ∈ earlier, event.IsReady then ready else before) rest := by
  induction earlier generalizing before with
  | nil => simp
  | cons event earlier ih =>
    obtain ⟨hEvent, hEarlier⟩ := List.forall_mem_cons.mp h
    rw [List.cons_append, fold]
    by_cases hReady : event.IsReady
    · simp only [HistoryEvent.kind_of_isReady hReady, ih hEarlier]
      simp [hReady]
    · simp only [HistoryEvent.kind_of_not_ends hEvent hReady, ih hEarlier]
      simp [hReady]

theorem ofEvents_of_cancelledBy (h : CancelledBy events earlier event token) :
    ofEvents own events = ofCancel own event.sender (.ofToken token) := by
  obtain ⟨later, rfl⟩ := h.split
  rw [ofEvents, fold_append_of_not_ends h.open_before, fold,
    HistoryEvent.kind_of_cancel h.cancels h.token]

theorem exists_cancelledBy (hBefore : before = started ∨ before = ready)
    (h : fold own before events ∈ [cancelledByUs, cancelled, expired, failed]) :
    ∃ earlier event token, CancelledBy events earlier event token := by
  induction events generalizing before with
  | nil =>
    rw [fold] at h
    rcases hBefore with rfl | rfl <;> simp at h
  | cons event events ih =>
    by_cases hEnds : event.Ends
    · rcases hEnds with hDone | hCancel
      · have hKind : event.kind = .done := by simp [HistoryEvent.kind, hDone]
        simp [fold, hKind] at h
      · obtain ⟨token, hToken⟩ := event.exists_hasToken
        exact ⟨[], event, token, ⟨events, rfl⟩, by simp, hCancel, hToken⟩
    · have hRest : ∃ before, (before = started ∨ before = ready) ∧
          fold own before events ∈ [cancelledByUs, cancelled, expired, failed] := by
        rw [fold] at h
        by_cases hReady : event.IsReady
        · rw [HistoryEvent.kind_of_isReady hReady] at h
          exact ⟨ready, .inr rfl, h⟩
        · rw [HistoryEvent.kind_of_not_ends hEnds hReady] at h
          exact ⟨before, hBefore, h⟩
      obtain ⟨before, hBefore, hRest⟩ := hRest
      obtain ⟨earlier, last, token, hLast⟩ := ih hBefore hRest
      obtain ⟨later, hSplit⟩ := hLast.split
      refine ⟨event :: earlier, last, token, ⟨later, by rw [hSplit, List.cons_append]⟩, ?_,
        hLast.cancels, hLast.token⟩
      exact List.forall_mem_cons.mpr ⟨hEnds, hLast.open_before⟩

theorem ofCancel_eq_expired_iff {sender : UserId} {code : CancelCode} :
    ofCancel own sender code = expired ↔ code = .timeout := by
  cases code with
  | user =>
    rw [ofCancel]
    split <;> simp
  | _ => simp [ofCancel]

theorem ofEvents_eq_expired_iff : ofEvents own events = expired ↔
    ∃ earlier event, CancelledBy events earlier event "m.timeout" := by
  have hTimeout {token : String} : CancelCode.ofToken token = .timeout ↔ token = "m.timeout" :=
    CancelCode.ofToken_eq_iff (by nofun)
  constructor
  · intro h
    have hOver : fold own started events ∈ [cancelledByUs, cancelled, expired, failed] := by
      rw [show fold own started events = expired from h]
      decide
    obtain ⟨earlier, event, token, hLast⟩ := exists_cancelledBy (.inl rfl) hOver
    rw [ofEvents_of_cancelledBy hLast, ofCancel_eq_expired_iff, hTimeout] at h
    exact ⟨earlier, event, h ▸ hLast⟩
  · rintro ⟨earlier, event, hLast⟩
    rw [ofEvents_of_cancelledBy hLast, ofCancel_eq_expired_iff, hTimeout]

/-! ## What became of the live request -/

theorem exists_followed_of_append (h : Followed own (earlier ++ events) reports) :
    ∃ former rest, reports = former ++ rest ∧ Followed own earlier former ∧
      Followed own events rest := by
  induction earlier generalizing reports with
  | nil => exact ⟨[], reports, rfl, .nil, h⟩
  | cons event earlier ih =>
    cases h with
    | @cons _ _ first more hEvent hRest =>
      obtain ⟨former, rest, rfl, hEarlier, hEvents⟩ := ih hRest
      exact ⟨first ++ former, rest, (List.append_assoc ..).symm, .cons hEvent hEarlier, hEvents⟩

/-- As long as nothing ended a request, it is ready if somebody answered it. -/
theorem state_follow_of_not_ends (h : Followed own earlier reports)
    (hEnds : ∀ event ∈ earlier, ¬ event.Ends) (hPending : request.state = .pending) :
    (Request.life.follow request reports).state =
      if ∃ event ∈ earlier, event.IsReady then .ready else .pending := by
  have hLive : request.state.isTerminal = false := by rw [hPending]; rfl
  have hMatches : (fold own started earlier).Matches (Request.life.follow request reports).state :=
    matches_fold h hPending hLive
  rw [← earlier.append_nil, fold_append_of_not_ends hEnds, fold] at hMatches
  by_cases hReady : ∃ event ∈ earlier, event.IsReady
  · rwa [if_pos hReady] at hMatches ⊢
  · rwa [if_neg hReady] at hMatches ⊢

theorem exists_state_of_cancelledBy (h : CancelledBy events earlier event token)
    (hFollowed : Followed own events reports) (hPending : request.state = .pending) :
    ∃ reason, (Request.life.follow request reports).state =
      .ofCancel ⟨.ofToken token, reason, event.sender = own⟩
        (if ∃ before ∈ earlier, before.IsReady then .ready else .pending) := by
  obtain ⟨later, rfl⟩ := h.split
  obtain ⟨former, _, rfl, hEarlier, hRest⟩ := exists_followed_of_append hFollowed
  have hState := state_follow_of_not_ends hEarlier h.open_before hPending
  have hLive : (Request.life.follow request former).state.isTerminal = false := by
    rw [hState]
    split <;> rfl
  cases hRest with
  | cons hEvent _ =>
    rcases hEvent.kind_cases with
        ⟨hKind, -⟩ | ⟨hKind, -⟩ | ⟨code, reason, hKind, rfl⟩ | ⟨hKind, -⟩ <;>
      rw [HistoryEvent.kind_of_cancel h.cancels h.token] at hKind <;> cases hKind
    refine ⟨reason, ?_⟩
    rw [Lifecycle.follow_append, ← hState]
    exact Request.life.state_follow_cancelled hLive _

theorem ofCancel_state_eq_expired_iff {info : CancelInfo} {current : RequestState} :
    RequestState.ofCancel info current = .expired ↔ info.code = .timeout ∧ current = .pending := by
  rw [RequestState.ofCancel]
  split
  · next h => exact iff_of_true rfl h
  · next h =>
    refine iff_of_false ?_ h
    split <;> nofun

theorem state_eq_expired_iff (hFollowed : Followed own events reports)
    (hPending : request.state = .pending) :
    (Request.life.follow request reports).state = .expired ↔
      ∃ earlier event, CancelledBy events earlier event "m.timeout" ∧
        ∀ before ∈ earlier, ¬ before.IsReady := by
  constructor
  · intro h
    have hLive : request.state.isTerminal = false := by rw [hPending]; rfl
    have hMatches : (fold own started events).Matches (Request.life.follow request reports).state :=
      matches_fold hFollowed hPending hLive
    obtain ⟨earlier, event, token, hLast⟩ :=
      exists_cancelledBy (.inl rfl) (hMatches.agree.2.2.2.mpr (by simp [h]))
    obtain ⟨reason, hState⟩ := exists_state_of_cancelledBy hLast hFollowed hPending
    obtain ⟨hCode, hCurrent⟩ := ofCancel_state_eq_expired_iff.mp (hState.symm.trans h)
    obtain rfl := (CancelCode.ofToken_eq_iff (by nofun)).mp hCode
    refine ⟨earlier, event, hLast, fun before hBefore hReady => ?_⟩
    rw [if_pos ⟨before, hBefore, hReady⟩] at hCurrent
    cases hCurrent
  · rintro ⟨earlier, event, hLast, hUnanswered⟩
    obtain ⟨reason, hState⟩ := exists_state_of_cancelledBy hLast hFollowed hPending
    rw [hState, if_neg (by simpa using hUnanswered)]
    rfl

/-! ## Where the two agree -/

/-- The request was answered, and timed out after that. -/
def TimedOutLate (events : List HistoryEvent) : Prop :=
  ∃ earlier event, CancelledBy events earlier event "m.timeout" ∧
    ∃ before ∈ earlier, before.IsReady

/-- History shows of a cancellation by the user what became of the live request, and whether a request
expired, unless it was answered before it timed out. -/
theorem cancellation_alike_unless_late (h : Followed own events reports)
    (hPending : request.state = .pending) :
    let live := (Request.life.follow request reports).state
    ((ofEvents own events = .expired ↔ live = .expired) ↔ ¬ TimedOutLate events) ∧
      ∀ earlier event, CancelledBy events earlier event "m.user" →
        (ofEvents own events = .cancelledByUs ↔ live = .cancelledByUs) ∧
        (ofEvents own events = .cancelled ↔ live = .cancelled) := by
  intro live
  constructor
  · rw [ofEvents_eq_expired_iff, state_eq_expired_iff h hPending]
    constructor
    · rintro hAlike ⟨earlier, event, hLast, before, hBefore, hReady⟩
      obtain ⟨other, last, hOther, hUnanswered⟩ := hAlike.mp ⟨earlier, event, hLast⟩
      -- Both are what comes before the first end.
      rw [hLast.earlier_eq, ← hOther.earlier_eq] at hBefore
      exact hUnanswered before hBefore hReady
    · intro hLate
      constructor
      · rintro ⟨earlier, event, hLast⟩
        refine ⟨earlier, event, hLast, fun before hBefore hReady => hLate ?_⟩
        exact ⟨earlier, event, hLast, before, hBefore, hReady⟩
      · rintro ⟨earlier, event, hLast, -⟩
        exact ⟨earlier, event, hLast⟩
  · intro earlier event hLast
    obtain ⟨reason, hState⟩ := exists_state_of_cancelledBy hLast h hPending
    have hUser : CancelCode.ofToken "m.user" = .user := rfl
    have hLive : live = if event.sender = own then .cancelledByUs else .cancelled := by
      rw [show live = _ from hState, hUser]
      simp [RequestState.ofCancel]
    rw [hLive, ofEvents_of_cancelledBy hLast, hUser, ofCancel]
    split <;> simp

namespace Sample

def answer : HistoryEvent := ⟨"m.key.verification.ready", .bob, 1, .object []⟩

def cancelOf (sender : UserId) (token : String) : HistoryEvent :=
  ⟨"m.key.verification.cancel", sender, 2, .object [("code", .text token)]⟩

def reported (sender : UserId) (token : String) : List RequestUpdate :=
  [.ready [.sas] [.sas] none] ++ ([.cancelled ⟨.ofToken token, "", sender = .alice⟩] ++ [])

theorem followed_reported (sender : UserId) (token : String) :
    Followed .alice [answer, cancelOf sender token] (reported sender token) :=
  .cons (.ready rfl _ _ _) (.cons (.cancel rfl (.given rfl) _) .nil)

end Sample

open Sample Request.Sample in
theorem cancelled_by_us_after_answer :
    (Request.life.follow unanswered (reported .alice "m.user")).state = .cancelledByUs ∧
      ofEvents .alice [answer, cancelOf .alice "m.user"] = .cancelledByUs := by
  have hLast : CancelledBy [answer, cancelOf .alice "m.user"] [answer] (cancelOf .alice "m.user")
      "m.user" := ⟨⟨[], rfl⟩, by decide, rfl, .given rfl⟩
  have hLive : (Request.life.follow unanswered (reported .alice "m.user")).state = .cancelledByUs := rfl
  have hPending : unanswered.state = .pending := rfl
  obtain ⟨-, hUser⟩ := cancellation_alike_unless_late (followed_reported .alice "m.user") hPending
  exact ⟨hLive, (hUser _ _ hLast).1.mpr hLive⟩

open Sample Request.Sample in
theorem late_timeout_is_told_apart :
    Followed .alice [answer, cancelOf .bob "m.timeout"] (reported .bob "m.timeout") ∧
      unanswered.state = .pending ∧
      ¬ (ofEvents .alice [answer, cancelOf .bob "m.timeout"] = .expired ↔
        (Request.life.follow unanswered (reported .bob "m.timeout")).state = .expired) := by
  have hLive : (Request.life.follow unanswered (reported .bob "m.timeout")).state = .cancelled := rfl
  refine ⟨followed_reported .bob "m.timeout", rfl, fun h => ?_⟩
  cases hLive.symm.trans (h.mp rfl)

end Outcome

end DeviceTrust
