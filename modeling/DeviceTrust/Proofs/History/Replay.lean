import DeviceTrust.History.Outcome
import DeviceTrust.Proofs.Verification.Lifecycle
/-! # Replaying history

The events that a room keeps of a flow are those that once moved its request: each came with a report of
the engine, or with none if it says nothing about the request. The outcome that is read off the events
later and the state in which those reports left the request say the same.
-/

namespace DeviceTrust

namespace HistoryEvent

variable {own : UserId} {event : HistoryEvent} {token : String} {reports : List RequestUpdate}

/-- The token of the code in a cancel event: the text that stands there, or else the empty one. -/
inductive HasToken (event : HistoryEvent) : String → Prop
  | given {token : String} (h : event.content.get? "code" = some (.text token)) :
    HasToken event token
  | missing (h : ∀ token, event.content.get? "code" ≠ some (.text token)) : HasToken event ""

/-- What the engine reports of a request when an event of its flow arrives. -/
inductive ReportedAs (own : UserId) (event : HistoryEvent) : List RequestUpdate → Prop
  | ready (hType : event.eventType = "m.key.verification.ready") (theirs ours : List Method)
    (device : Option String) : ReportedAs own event [.ready theirs ours device]
  | done (hType : event.eventType = "m.key.verification.done") : ReportedAs own event [.done]
  | cancel (hType : event.eventType = "m.key.verification.cancel") {token : String}
    (hToken : event.HasToken token) (reason : String) :
    ReportedAs own event [.cancelled ⟨.ofToken token, reason, event.sender = own⟩]
  | other (hReady : event.eventType ≠ "m.key.verification.ready")
    (hDone : event.eventType ≠ "m.key.verification.done")
    (hCancel : event.eventType ≠ "m.key.verification.cancel") : ReportedAs own event []

theorem HasToken.cancelCode_eq (h : event.HasToken token) : event.cancelCode = .ofToken token := by
  rw [cancelCode]
  cases h with
  | given h => rw [h, Option.bind_some, Json.text?, Option.getD_some]
  | missing h =>
    cases hCode : event.content.get? "code" with
    | none => rfl
    | some code =>
      cases code with
      | text token => exact absurd hCode (h token)
      | _ => rfl

theorem ReportedAs.kind_cases (h : event.ReportedAs own reports) :
    (event.kind = .ready ∧ ∃ theirs ours device, reports = [.ready theirs ours device]) ∨
      (event.kind = .done ∧ reports = [.done]) ∨
      (∃ code reason, event.kind = .cancel code ∧
        reports = [.cancelled ⟨code, reason, event.sender = own⟩]) ∨
      (event.kind = .other ∧ reports = []) := by
  cases h with
  | ready hType theirs ours device =>
    exact .inl ⟨by simp [kind, hType], theirs, ours, device, rfl⟩
  | done hType => exact .inr (.inl ⟨by simp [kind, hType], rfl⟩)
  | @cancel hType token hToken reason =>
    have hKind : event.kind = .cancel event.cancelCode := by simp [kind, hType]
    rw [hToken.cancelCode_eq] at hKind
    exact .inr (.inr (.inl ⟨_, reason, hKind, rfl⟩))
  | other hReady hDone hCancel =>
    exact .inr (.inr (.inr ⟨by simp [kind, hReady, hDone, hCancel], rfl⟩))

end HistoryEvent

inductive Followed (own : UserId) : List HistoryEvent → List RequestUpdate → Prop
  | nil : Followed own [] []
  | cons {event : HistoryEvent} {events : List HistoryEvent} {reports more : List RequestUpdate}
    (hEvent : event.ReportedAs own reports) (hRest : Followed own events more) :
    Followed own (event :: events) (reports ++ more)

namespace Outcome

/-- The outcome that history shows and the state of the live request say the same. -/
def Matches : Outcome → RequestState → Prop
  | started, state => state = .pending
  | ready, state => state = .ready
  | verified, state => state = .accepted
  | cancelledByUs, state | cancelled, state | expired, state | failed, state =>
    state ∈ [.cancelled, .cancelledByUs, .expired]

variable {own : UserId} {events : List HistoryEvent} {reports : List RequestUpdate}
  {outcome before : Outcome} {state : RequestState} {request : Request}

theorem matches_ofCancel (own sender : UserId) (code : CancelCode)
    (h : state ∈ [.cancelled, .cancelledByUs, .expired]) : (ofCancel own sender code).Matches state := by
  cases code with
  | user =>
    rw [ofCancel]
    split <;> exact h
  | _ => exact h

theorem matches_fold (h : Followed own events reports) (hBefore : before.Matches request.state)
    (hLive : request.state.isTerminal = false) :
    (fold own before events).Matches (Request.life.follow request reports).state := by
  induction h generalizing before request with
  | nil => exact hBefore
  | @cons event events _ more hEvent _ ih =>
    rw [fold]
    -- The fold stops at the first done or cancel event, and so does the request: the rest of the
    -- events matters to neither.
    rcases hEvent.kind_cases with ⟨hKind, theirs, ours, device, rfl⟩ | ⟨hKind, rfl⟩ |
      ⟨code, reason, hKind, rfl⟩ | ⟨hKind, rfl⟩ <;> simp only [hKind]
    · have hReady : (request.apply (.ready theirs ours device)).1.state = .ready := by
        rw [Request.apply_of_live hLive]
        rfl
      exact ih hReady (hReady ▸ rfl)
    · exact Request.life.state_follow_done hLive
    · have hOver : (Request.life.follow request
            (.cancelled ⟨code, reason, event.sender = own⟩ :: more)).state =
          Request.life.afterCancel ⟨code, reason, event.sender = own⟩ request.state :=
        Request.life.state_follow_cancelled hLive _
      refine matches_ofCancel own _ code ((RequestState.mem_cancelled_iff _).mpr ?_)
      rw [List.singleton_append, hOver]
      exact ⟨Request.life.isTerminal_afterCancel _ _, Request.life.afterCancel_ne_success _ _⟩
    · exact ih hBefore hLive

theorem Matches.agree (h : outcome.Matches state) :
    (outcome = .started ↔ state = .pending) ∧ (outcome = .ready ↔ state = .ready) ∧
      (outcome = .verified ↔ state = .accepted) ∧
      (outcome ∈ [cancelledByUs, cancelled, expired, failed] ↔
        state ∈ [.cancelled, .cancelledByUs, .expired]) := by
  cases outcome <;> cases state <;> simp_all [Matches]

/-- What history shows of a flow is what its request, which was pending at first, came to live: no
success is invented and none is lost. -/
theorem ofEvents_agrees_with_live (h : Followed own events reports)
    (hPending : request.state = .pending) :
    let live := (Request.life.follow request reports).state
    (ofEvents own events = .started ↔ live = .pending) ∧
      (ofEvents own events = .ready ↔ live = .ready) ∧
      (ofEvents own events = .verified ↔ live = .accepted) ∧
      (ofEvents own events ∈ [cancelledByUs, cancelled, expired, failed] ↔
        live ∈ [.cancelled, .cancelledByUs, .expired]) := by
  have hLive : request.state.isTerminal = false := by rw [hPending]; rfl
  have hMatches : (ofEvents own events).Matches (Request.life.follow request reports).state :=
    matches_fold h hPending hLive
  exact hMatches.agree

namespace Sample

def history : List HistoryEvent :=
  [⟨"m.key.verification.ready", .alice, 1, .object []⟩, ⟨"m.room.message", .alice, 2, .null⟩,
    ⟨"m.key.verification.cancel", .alice, 3, .object [("code", .int 4)]⟩,
    ⟨"m.key.verification.done", .alice, 4, .object []⟩]

def arrived : List RequestUpdate :=
  [.ready [.sas] [.sas] none] ++
    ([] ++ ([.cancelled ⟨.ofToken "", "", UserId.alice = .alice⟩] ++ ([.done] ++ [])))

theorem followed : Followed .alice history arrived := by
  refine .cons (.ready rfl _ _ _) (.cons (.other ?_ ?_ ?_) (.cons (.cancel rfl (.missing ?_) _)
    (.cons (.done rfl) .nil)))
  · decide
  · decide
  · decide
  · intro token hText
    cases hText

end Sample

open Sample Request.Sample in
theorem uncoded_cancel_is_no_success :
    ofEvents .alice history ∈ [cancelledByUs, cancelled, expired, failed] ∧
      ofEvents .alice history ≠ .verified := by
  have hPending : unanswered.state = .pending := rfl
  have hLive : (Request.life.follow unanswered arrived).state = .cancelledByUs := rfl
  obtain ⟨_, _, hVerified, hOver⟩ := ofEvents_agrees_with_live followed hPending
  rw [hLive] at hVerified hOver
  have hFailed : RequestState.cancelledByUs ≠ .accepted := by decide
  exact ⟨hOver.mpr (by decide), fun hDone => hFailed (hVerified.mp hDone)⟩

end Outcome

end DeviceTrust
