import DeviceTrust.Proofs.Verification.Lifecycle
/-! # Restored requests

What the engine keeps of a request are its details. A request that is made of them anew gets its state
from them too: it is ready if both sides have named their methods, and a timeout makes it expired if
they have not. That is the state the request was in, unless a report took it back to pending when it
was ready.
-/

namespace DeviceTrust.Request

/-- What the engine knows of a request by now, if `info` is what it knew at first. -/
def snapshot (info : RequestInfo) (request : Request) : RequestInfo :=
  { info with
    otherDevice := request.otherDevice
    theirMethods := request.theirMethods
    ourMethods := request.ourMethods
    isDone := request.isDone
    cancelInfo := request.cancelInfo }

def heldBy (request : Request) (ownUser : UserId) (defaultMethods : List Method) : Request :=
  { request with ownUser, defaultMethods }

/-- No report says of a request that is ready that it was only sent. -/
def NeverReopened : Request → List RequestUpdate → Prop
  | _, [] => True
  | request, update :: rest =>
    ¬ (update = .requested ∧ request.state = .ready) ∧ NeverReopened (request.apply update).1 rest

structure Concerns (info : RequestInfo) (request : Request) : Prop where
  flow : request.flow = info.flow
  otherUser : request.otherUser = info.otherUser
  weStarted : request.weStarted = info.weStarted

def agreed (theirs ours : Option (List Method)) : RequestState :=
  if theirs.isSome && ours.isSome then .ready else .pending

/-- The state of a request can be told from its details. -/
inductive Recorded (request : Request) : Prop
  | live (hState : request.state = agreed request.theirMethods request.ourMethods)
    (hInfo : request.cancelInfo = none)
  | accepted (hState : request.state = .accepted)
  | cancelled (cancel : CancelInfo) (hInfo : request.cancelInfo = some cancel)
    (hState : request.state =
      .ofCancel cancel (agreed request.theirMethods request.ourMethods))

variable {request : Request} {info : RequestInfo} {update : RequestUpdate}
  {updates : List RequestUpdate} {ownUser : UserId} {defaultMethods : List Method}

theorem isTerminal_agreed (theirs ours : Option (List Method)) :
    (agreed theirs ours).isTerminal = false := by
  rw [agreed]
  split <;> rfl

theorem initialState_eq (info : RequestInfo) : initialState info =
    if info.isDone then .accepted
    else match info.cancelInfo with
      | some cancel => .ofCancel cancel (agreed info.theirMethods info.ourMethods)
      | none => agreed info.theirMethods info.ourMethods := rfl

/-! ## The state on record -/

theorem isDone_eq_false (h : request.state ≠ .accepted) : request.isDone = false :=
  beq_false_of_ne h

theorem Recorded.initialState_snapshot (h : request.Recorded) (info : RequestInfo) :
    initialState (request.snapshot info) = request.state := by
  rw [initialState_eq]
  cases h with
  | live hState hInfo =>
    have hDone : request.isDone = false := by
      refine isDone_eq_false fun hAccepted => ?_
      have hLive := isTerminal_agreed request.theirMethods request.ourMethods
      rw [← hState, hAccepted] at hLive
      cases hLive
    simp [snapshot, hDone, hInfo, hState]
  | accepted hState => simp [snapshot, isDone, hState]
  | cancelled cancel hInfo hState =>
    have hDone : request.isDone = false := by
      refine isDone_eq_false fun hAccepted => ?_
      exact life.afterCancel_ne_success cancel _ (hState.symm.trans hAccepted)
    simp [snapshot, hDone, hInfo, hState]

theorem recorded_ofInfo (ownUser : UserId) (defaultMethods : List Method) (info : RequestInfo) :
    (ofInfo ownUser defaultMethods info).Recorded := by
  have hState : (ofInfo ownUser defaultMethods info).state = initialState info := rfl
  rw [initialState_eq] at hState
  cases hDone : info.isDone with
  | true =>
    rw [hDone] at hState
    exact .accepted hState
  | false =>
    rw [hDone] at hState
    cases hInfo : info.cancelInfo with
    | none =>
      rw [hInfo] at hState
      exact .live hState hInfo
    | some cancel =>
      rw [hInfo] at hState
      exact .cancelled cancel hInfo hState

theorem agreed_of_ne_ready {theirs ours : Option (List Method)} (h : agreed theirs ours ≠ .ready) :
    agreed theirs ours = .pending := by
  rw [agreed] at h ⊢
  split at h
  · exact absurd rfl h
  · exact if_neg ‹_›

/-- What is over stays as it is, and of what is not over a report writes down all that it changes. The
one report that forgets is that a request was only sent, which leaves the methods named. -/
theorem Recorded.apply (h : request.Recorded)
    (hKept : ¬ (update = .requested ∧ request.state = .ready)) :
    (request.apply update).1.Recorded := by
  cases hOver : request.state.isTerminal with
  | true =>
    have hSame : request.apply update = (request, false) :=
      life.apply_of_terminal request update hOver
    rw [hSame]
    exact h
  | false =>
    rw [apply_of_live hOver]
    cases h with
    | accepted hState =>
      rw [hState] at hOver
      cases hOver
    | cancelled cancel hInfo hState =>
      rw [hState] at hOver
      cases (life.isTerminal_afterCancel cancel _).symm.trans hOver
    | live hState hInfo =>
      cases update with
      | requested =>
        have hNotReady : agreed request.theirMethods request.ourMethods ≠ .ready :=
          fun hReady => hKept ⟨rfl, hState.trans hReady⟩
        exact .live (agreed_of_ne_ready hNotReady).symm hInfo
      | ready theirs ours device => exact .live rfl hInfo
      | done => exact .accepted rfl
      | cancelled cancel =>
        exact .cancelled cancel rfl (congrArg (RequestState.ofCancel cancel) hState)

theorem Recorded.follow (h : request.Recorded) (hKept : request.NeverReopened updates) :
    (life.follow request updates).Recorded := by
  induction updates generalizing request with
  | nil => exact h
  | cons update rest ih => exact ih (h.apply hKept.1) hKept.2

/-! ## What a report leaves alone -/

theorem Concerns.apply (h : request.Concerns info) (update : RequestUpdate) :
    (request.apply update).1.Concerns info := by
  rw [Request.apply]
  split
  · exact h
  · cases update <;> exact ⟨h.flow, h.otherUser, h.weStarted⟩

theorem Concerns.follow (h : request.Concerns info) (updates : List RequestUpdate) :
    (life.follow request updates).Concerns info := by
  induction updates generalizing request with
  | nil => exact h
  | cons update rest ih => exact ih (h.apply update)

theorem apply_heldBy (request : Request) (ownUser : UserId) (defaultMethods : List Method)
    (update : RequestUpdate) : (request.heldBy ownUser defaultMethods).apply update =
      ((request.apply update).1.heldBy ownUser defaultMethods, (request.apply update).2) := by
  cases hOver : request.state.isTerminal with
  | true => simp [Request.apply, heldBy, hOver]
  | false => cases update <;> simp [Request.apply, heldBy, hOver, note, target]

theorem follow_heldBy (request : Request) (ownUser : UserId) (defaultMethods : List Method)
    (updates : List RequestUpdate) : life.follow (request.heldBy ownUser defaultMethods) updates =
      (life.follow request updates).heldBy ownUser defaultMethods := by
  induction updates generalizing request with
  | nil => rfl
  | cons update rest ih =>
    have hStep : (life.apply (request.heldBy ownUser defaultMethods) update).1 =
        (request.apply update).1.heldBy ownUser defaultMethods :=
      congrArg Prod.fst (apply_heldBy request ownUser defaultMethods update)
    rw [Lifecycle.follow_cons, Lifecycle.follow_cons, hStep]
    exact ih (request.apply update).1

/-! ## The request that is made anew -/

theorem Recorded.ofInfo_snapshot (h : request.Recorded) (hConcerns : request.Concerns info)
    (ownUser : UserId) (defaultMethods : List Method) :
    ofInfo ownUser defaultMethods (request.snapshot info) =
      request.heldBy ownUser defaultMethods := by
  obtain ⟨hFlow, hUser, hStarted⟩ := hConcerns
  simp only [ofInfo, heldBy, h.initialState_snapshot info]
  simp only [snapshot, hFlow, hUser, hStarted]

/-- A request that is made of what the engine knows by now is the request that followed the reports: it
has its state and all its details, and whatever is reported next does the same to both. This holds even
of a request that the engine told to be done and cancelled both, since there a success counts. -/
theorem restored_as_followed {ownUser : UserId} {methods : List Method} {info : RequestInfo}
    {updates : List RequestUpdate} (hKept : (ofInfo ownUser methods info).NeverReopened updates)
    (ownUser' : UserId) (methods' : List Method) :
    let followed := life.follow (ofInfo ownUser methods info) updates
    let restored := ofInfo ownUser' methods' (followed.snapshot info)
    restored = followed.heldBy ownUser' methods' ∧
      ∀ more update, (life.follow restored more).apply update =
        (((life.follow followed more).apply update).1.heldBy ownUser' methods',
          ((life.follow followed more).apply update).2) := by
  intro followed restored
  have hRestored : restored = followed.heldBy ownUser' methods' :=
    ((recorded_ofInfo ownUser methods info).follow hKept).ofInfo_snapshot
      (Concerns.follow ⟨rfl, rfl, rfl⟩ updates) ownUser' methods'
  refine ⟨hRestored, fun more update => ?_⟩
  rw [hRestored, follow_heldBy]
  exact apply_heldBy _ ownUser' methods' update

open Request.Sample in
/-- A timeout after both sides named their methods, so that the request made anew is not expired. -/
theorem timeout_restored_as_cancelled :
    let info : RequestInfo := ⟨.toDevice "flow", .alice, none, true, none, none, false, none⟩
    let followed := life.follow (ofInfo .alice [.sas] info)
      [.requested, .ready [.sas] [.sas] none, .cancelled timeout]
    ofInfo .alice [.reciprocate] (followed.snapshot info) = followed.heldBy .alice [.reciprocate] ∧
      followed.state = .cancelled := by
  intro info followed
  have hKept : (ofInfo .alice [.sas] info).NeverReopened
      [.requested, .ready [.sas] [.sas] none, .cancelled timeout] :=
    ⟨by decide, by decide, by decide, trivial⟩
  exact ⟨(restored_as_followed hKept .alice [.reciprocate]).1, rfl⟩

end DeviceTrust.Request
