import DeviceTrust.Proofs.Manager.Finished
import DeviceTrust.Proofs.Manager.Locality
/-! # Whose flow is looked up

A client looks up a flow by its sender, and in a room also by the room. The engine is asked with all of
that, but the tables are only searched for the text of the flow id, which the other side chooses. So what
a lookup yields belongs to the sender unless the text is that of another flow.
-/

namespace DeviceTrust.Manager

open Operation

variable {σ : Type} {m : Manager} {answer : Collaborators σ} {world : σ} {sender : UserId}
  {flow : String} {event : EventId} {room : RoomId} {handle : Handle Request} {request : Request}

/-! ## What a lookup comes to -/

theorem run_incomingRequest_of_known (hKnown : m.known? flow = some handle) :
    (incomingRequest sender flow).run answer m world = ⟨some handle, m, world, []⟩ := by
  rw [incomingRequest, run_knownRequest_bind, hKnown]
  rfl

theorem run_incomingRequest_of_none (hUnknown : m.known? flow = none)
    (hFound : (answer (.findRequest sender flow) world).1 = none) :
    (incomingRequest sender flow).run answer m world =
      ⟨none, m, (answer (.findRequest sender flow) world).2, [.findRequest sender flow]⟩ := by
  rw [incomingRequest, run_knownRequest_bind, hUnknown]
  dsimp only
  rw [run_call_bind, hFound]
  rfl

theorem run_incomingRequest_of_found {info : RequestInfo} (hUnknown : m.known? flow = none)
    (hFound : (answer (.findRequest sender flow) world).1 = some info) :
    (incomingRequest sender flow).run answer m world =
      ⟨some (m.addRequest info true).1, (m.addRequest info true).2,
        (answer (.findRequest sender flow) world).2, [.findRequest sender flow]⟩ := by
  rw [incomingRequest, run_knownRequest_bind, hUnknown]
  dsimp only
  rw [run_call_bind, hFound]
  rfl

theorem run_keyVerification_of_known (hKnown : m.known? event.text = some handle) :
    (keyVerification sender event room).run answer m world =
      ⟨.ok (.request handle), m, world, []⟩ := by
  rw [keyVerification, run_knownRequest_bind, hKnown]
  rfl

theorem run_keyVerification_of_found {info : RequestInfo} (hUnknown : m.known? event.text = none)
    (hFound : (answer (.findRequest sender event.text) world).1 = some info) :
    (keyVerification sender event room).run answer m world =
      ⟨.ok (.request (m.addRequest info false).1), (m.addRequest info false).2,
        (answer (.findRequest sender event.text) world).2, [.findRequest sender event.text]⟩ := by
  rw [keyVerification, run_knownRequest_bind, hUnknown]
  dsimp only
  rw [run_call_bind, hFound]
  rfl

theorem value_keyVerification_of_none (hUnknown : m.known? event.text = none)
    (hFound : (answer (.findRequest sender event.text) world).1 = none) :
    ((keyVerification sender event room).run answer m world).value ≠ .ok (.request handle) := by
  rw [keyVerification, run_knownRequest_bind, hUnknown]
  dsimp only
  rw [run_call_bind, hFound]
  dsimp only
  rw [run_bind]
  generalize (resolve event room).run answer m _ = last
  intro hValue
  obtain ⟨error | outcome⟩ := last <;> cases hValue

theorem meets_knownRequest_bind {β : Type} {assumes : Manager → (call : Call) → call.Answer → Prop}
    {k : Option (Handle Request) → Operation Manager β} :
    (knownRequest flow >>= k).Meets assumes answer m world ↔
      (k (m.known? flow)).Meets assumes answer m world := by
  rw [knownRequest, bind_assoc, meets_read_bind, known?]
  cases m.tracked[flow]? <;> rfl

theorem RequestsFiled.exists_of_known? (h : m.RequestsFiled) (hKnown : m.known? flow = some handle) :
    ∃ request, m.request? handle = some request := by
  rw [known?] at hKnown
  cases hTracked : m.tracked[flow]? with
  | some found =>
    rw [hTracked] at hKnown
    obtain ⟨request, hRequest, _⟩ := h.tracked flow found hTracked
    cases hKnown
    exact ⟨request, hRequest⟩
  | none =>
    rw [hTracked] at hKnown
    obtain ⟨request, hRequest, _⟩ := h.finished flow handle hKnown
    exact ⟨request, hRequest⟩

/-! ## Whose it is -/

/-- A request that the other side is said to have sent is theirs, if what the engine tells is. -/
def YieldsOwnRequest (answer : Collaborators σ) (world : σ) (m : Manager) (sender : UserId)
    (flow : String) : Prop :=
  let last := (incomingRequest sender flow).run answer m world
  (incomingRequest sender flow).Meets Attributed answer m world →
    ∀ handle, last.value = some handle →
      ∃ request, last.state.request? handle = some request ∧ request.otherUser = sender

/-- A flow that the other side is said to have started is theirs, if what the engine tells is. -/
def YieldsOwnFlow (answer : Collaborators σ) (world : σ) (m : Manager) (sender : UserId)
    (flow : String) : Prop :=
  let last := (incomingFlow sender flow).run answer m world
  (incomingFlow sender flow).Meets Attributed answer m world →
    ∀ handle, last.value = some handle →
      ∃ value, last.state.flow? handle = some value ∧ value.otherUser = sender

/-- A request that is yielded for an event is of the sender and of that event in that room. -/
def YieldsRequestOfEvent (answer : Collaborators σ) (world : σ) (m : Manager) (sender : UserId)
    (event : EventId) (room : RoomId) : Prop :=
  let last := (keyVerification sender event room).run answer m world
  (keyVerification sender event room).Meets Attributed answer m world →
    ∀ handle, last.value = .ok (.request handle) →
      ∃ request, last.state.request? handle = some request ∧ request.otherUser = sender ∧
        request.flow = .inRoom room event

def KnowsOther (m : Manager) (flow : String) (isOwn : Request → Prop) : Prop :=
  ∃ handle request, m.known? flow = some handle ∧ m.request? handle = some request ∧ ¬ isOwn request

/-- The engine tells of a QR code flow of the sender while one of another user runs under its id. -/
def RunsOther (answer : Collaborators σ) (world : σ) (m : Manager) (sender : UserId)
    (flow : String) : Prop :=
  ∃ handle qr info, m.running? flow = some (handle, .qr qr) ∧ qr.otherUser ≠ sender ∧
    (answer (.findFlow sender flow) world).1 = some (.qr info) ∧
    info.otherUser = sender ∧ info.flow.text = flow

/-- Nothing is known under the text of the event, and the engine tells of a request of the sender under
that text which is not of that event in that room. -/
def FindsElsewhere (answer : Collaborators σ) (world : σ) (m : Manager) (sender : UserId)
    (event : EventId) (room : RoomId) : Prop :=
  m.known? event.text = none ∧ ∃ info,
    (answer (.findRequest sender event.text) world).1 = some info ∧ info.otherUser = sender ∧
    info.flow.text = event.text ∧ info.flow ≠ .inRoom room event

theorem knowsOther_iff {isOwn : Request → Prop} (hKnown : m.known? flow = some handle)
    (hRequest : m.request? handle = some request) : m.KnowsOther flow isOwn ↔ ¬ isOwn request := by
  constructor
  · rintro ⟨_, other, hFound, hOther, hNot⟩
    cases hKnown.symm.trans hFound
    cases hRequest.symm.trans hOther
    exact hNot
  · intro hNot
    exact ⟨handle, request, hKnown, hRequest, hNot⟩

theorem not_knowsOther {isOwn : Request → Prop} (hUnknown : m.known? flow = none) :
    ¬ m.KnowsOther flow isOwn := by
  rintro ⟨handle, request, hKnown, _⟩
  cases hUnknown.symm.trans hKnown

theorem RequestsFiled.yieldsOwnRequest_iff (h : m.RequestsFiled) :
    YieldsOwnRequest answer world m sender flow ↔ ¬ m.KnowsOther flow (·.otherUser = sender) := by
  rw [YieldsOwnRequest]
  cases hKnown : m.known? flow with
  | some handle =>
    obtain ⟨request, hRequest⟩ := h.exists_of_known? hKnown
    have hMeets : (incomingRequest sender flow).Meets Attributed answer m world := by
      rw [incomingRequest, meets_knownRequest_bind, hKnown]
      trivial
    rw [run_incomingRequest_of_known hKnown, knowsOther_iff hKnown hRequest, Classical.not_not]
    constructor
    · intro hOwn
      obtain ⟨found, hFound, hUser⟩ := hOwn hMeets handle rfl
      cases hRequest.symm.trans hFound
      exact hUser
    · rintro hUser _ _ ⟨⟩
      exact ⟨request, hRequest, hUser⟩
  | none =>
    refine iff_of_true ?_ (not_knowsOther hKnown)
    cases hFound : (answer (.findRequest sender flow) world).1 with
    | none =>
      rw [run_incomingRequest_of_none hKnown hFound]
      rintro _ _ ⟨⟩
    | some info =>
      rw [run_incomingRequest_of_found hKnown hFound, incomingRequest, meets_knownRequest_bind, hKnown]
      dsimp only
      rw [meets_call_bind, hFound]
      rintro ⟨⟨hUser, _⟩, _⟩ _ ⟨⟩
      exact ⟨_, request?_addRequest, hUser⟩

theorem RequestsFiled.yieldsRequestOfEvent_iff (h : m.RequestsFiled) :
    YieldsRequestOfEvent answer world m sender event room ↔
      ¬ (m.KnowsOther event.text (fun request =>
          request.otherUser = sender ∧ request.flow = .inRoom room event) ∨
        FindsElsewhere answer world m sender event room) := by
  rw [YieldsRequestOfEvent, not_or]
  cases hKnown : m.known? event.text with
  | some handle =>
    obtain ⟨request, hRequest⟩ := h.exists_of_known? hKnown
    have hMeets : (keyVerification sender event room).Meets Attributed answer m world := by
      rw [keyVerification, meets_knownRequest_bind, hKnown]
      trivial
    have hNowhere : ¬ FindsElsewhere answer world m sender event room := by
      rintro ⟨hUnknown, _⟩
      cases hKnown.symm.trans hUnknown
    rw [run_keyVerification_of_known hKnown, knowsOther_iff hKnown hRequest, Classical.not_not,
      and_iff_left hNowhere]
    constructor
    · intro hOwn
      obtain ⟨found, hFound, hHas⟩ := hOwn hMeets handle rfl
      cases hRequest.symm.trans hFound
      exact hHas
    · rintro hHas _ _ ⟨⟩
      exact ⟨request, hRequest, hHas⟩
  | none =>
    rw [and_iff_right (not_knowsOther hKnown)]
    cases hFound : (answer (.findRequest sender event.text) world).1 with
    | none =>
      refine iff_of_true ?_ ?_
      · intro _ handle hValue
        exact absurd hValue (value_keyVerification_of_none hKnown hFound)
      · rintro ⟨_, info, hInfo, _⟩
        cases hFound.symm.trans hInfo
    | some info =>
      rw [run_keyVerification_of_found hKnown hFound, keyVerification, meets_knownRequest_bind, hKnown]
      dsimp only
      rw [meets_call_bind, hFound]
      constructor
      · rintro hOwn ⟨_, other, hOther, hUser, hName, hNot⟩
        cases hFound.symm.trans hOther
        obtain ⟨request, hRequest, _, hFlow⟩ := hOwn ⟨⟨hUser, hName⟩, trivial⟩ _ rfl
        cases request?_addRequest.symm.trans hRequest
        exact hNot hFlow
      · rintro hNowhere ⟨⟨hUser, hName⟩, _⟩ _ ⟨⟩
        refine ⟨_, request?_addRequest, hUser, ?_⟩
        exact Classical.byContradiction fun hFlow =>
          hNowhere ⟨hKnown, info, hFound, hUser, hName, hFlow⟩

theorem exists_running?_of_runningQr? {handle : Handle Flow} (h : m.runningQr? flow = some handle) :
    ∃ qr, m.running? flow = some (handle, .qr qr) := by
  rw [runningQr?] at h
  split at h
  · next qr hRunning =>
    cases h
    exact ⟨qr, hRunning⟩
  · cases h

theorem attributed_of_meets_incomingFlow {record : FlowRecord}
    (hFound : (answer (.findFlow sender flow) world).1 = some record)
    (h : (incomingFlow sender flow).Meets Attributed answer m world) :
    Attributed m (.findFlow sender flow) (some record) := by
  rw [incomingFlow, meets_call_bind, hFound] at h
  exact h.1

theorem yieldsOwnFlow_of_sas {info : FlowInfo}
    (hFound : (answer (.findFlow sender flow) world).1 = some (.sas info)) :
    YieldsOwnFlow answer world m sender flow := by
  intro hMeets handle hValue
  obtain ⟨hHandle, hState⟩ := incomingFlow_of_sas_enters (m := m) hFound
  cases hHandle.symm.trans hValue
  rw [hState]
  exact ⟨_, m.flows.get?_add_self _, (attributed_of_meets_incomingFlow hFound hMeets).1⟩

theorem yieldsOwnFlow_of_new {info : FlowInfo}
    (hFound : (answer (.findFlow sender flow) world).1 = some (.qr info))
    (hRunning : m.runningQr? flow = none) : YieldsOwnFlow answer world m sender flow := by
  intro hMeets handle hValue
  rw [run_incomingFlow_of_new hFound hRunning] at hValue ⊢
  cases hValue
  exact ⟨_, m.flows.get?_add_self _, (attributed_of_meets_incomingFlow hFound hMeets).1⟩

/-- A QR code flow that runs already is yielded as it is, whoever it is with. -/
theorem yieldsOwnFlow_iff_of_running {handle : Handle Flow} {qr : QrCode} {info : FlowInfo}
    (hRunning : m.running? flow = some (handle, .qr qr))
    (hFound : (answer (.findFlow sender flow) world).1 = some (.qr info)) :
    YieldsOwnFlow answer world m sender flow ↔
      (info.otherUser = sender ∧ info.flow.text = flow → qr.otherUser = sender) := by
  have hQr : m.runningQr? flow = some handle := by rw [runningQr?, hRunning]
  have hFlow : m.flow? handle = some (.qr qr) := (running?_eq_some_iff.mp hRunning).2
  rw [YieldsOwnFlow, run_incomingFlow_of_running hFound hQr]
  constructor
  · intro hOwn hAttributed
    have hMeets : (incomingFlow sender flow).Meets Attributed answer m world := by
      rw [incomingFlow, meets_call_bind, hFound]
      dsimp only
      rw [meets_read_bind, hQr]
      exact ⟨hAttributed, trivial⟩
    obtain ⟨value, hValue, hHas⟩ := hOwn hMeets handle rfl
    cases hFlow.symm.trans hValue
    exact hHas
  · rintro hSame hMeets _ ⟨⟩
    exact ⟨.qr qr, hFlow, hSame (attributed_of_meets_incomingFlow hFound hMeets)⟩

theorem yieldsOwnFlow_iff :
    YieldsOwnFlow answer world m sender flow ↔ ¬ RunsOther answer world m sender flow := by
  cases hFound : (answer (.findFlow sender flow) world).1 with
  | none =>
    refine iff_of_true ?_ ?_
    · rw [YieldsOwnFlow, run_incomingFlow_of_none hFound]
      rintro _ _ ⟨⟩
    · rintro ⟨_, _, info, _, _, hTold, _⟩
      cases hFound.symm.trans hTold
  | some record =>
    cases record with
    | sas info =>
      refine iff_of_true (yieldsOwnFlow_of_sas hFound) ?_
      rintro ⟨_, _, other, _, _, hTold, _⟩
      cases hFound.symm.trans hTold
    | qr info =>
      cases hQr : m.runningQr? flow with
      | none =>
        refine iff_of_true (yieldsOwnFlow_of_new hFound hQr) ?_
        rintro ⟨handle, qr, _, hRunning, _⟩
        rw [runningQr?, hRunning] at hQr
        cases hQr
      | some handle =>
        obtain ⟨qr, hRunning⟩ := exists_running?_of_runningQr? hQr
        rw [yieldsOwnFlow_iff_of_running hRunning hFound]
        constructor
        · rintro hSame ⟨_, other, told, hOther, hNot, hTold, hAttributed⟩
          cases hRunning.symm.trans hOther
          cases hFound.symm.trans hTold
          exact hNot (hSame hAttributed)
        · intro hSame hAttributed
          exact Classical.byContradiction fun hNot =>
            hSame ⟨handle, qr, info, hRunning, hNot, hFound, hAttributed⟩

/-- In every run, a lookup yields what is of the sender, and for an event a request of that event in that
room, unless the text of the flow id leads to another flow. -/
theorem lookups_yield_own_iff (ownUser : UserId) (settings : Settings) (answer : Collaborators σ)
    (world : σ) (commands : List Command) (sender : UserId) (flow : String) (event : EventId)
    (room : RoomId) :
    let now := (perform commands).run answer (new ownUser settings) world
    (YieldsOwnRequest answer now.world now.state sender flow ↔
        ¬ now.state.KnowsOther flow (·.otherUser = sender)) ∧
      (YieldsOwnFlow answer now.world now.state sender flow ↔
        ¬ RunsOther answer now.world now.state sender flow) ∧
      (YieldsRequestOfEvent answer now.world now.state sender event room ↔
        ¬ (now.state.KnowsOther event.text (fun request =>
            request.otherUser = sender ∧ request.flow = .inRoom room event) ∨
          FindsElsewhere answer now.world now.state sender event room)) := by
  intro now
  have hFiled : now.state.Filed := (filed_new ownUser settings).perform answer world commands
  exact ⟨hFiled.yieldsOwnRequest_iff, yieldsOwnFlow_iff, hFiled.yieldsRequestOfEvent_iff⟩

namespace Sample

def knock : EventId := ⟨"$knock", by decide⟩

/-- A to-device request of bob, whose transaction he named like an event. -/
def disguised : List Command := [.incomingRequest .bob "$knock"]

end Sample

open Sample in
/-- The request of bob is yielded as one of carol, and as one that he sent in a room. -/
theorem disguised_request_is_yielded :
    let now := (perform disguised).run obliging (new .alice .default) ()
    (perform (disguised ++ [.incomingRequest .carol "$knock", .keyVerification .bob knock .lobby])).Meets
        Attributed obliging (new .alice .default) () ∧
      ¬ YieldsOwnRequest obliging now.world now.state .carol "$knock" ∧
      ¬ YieldsRequestOfEvent obliging now.world now.state .bob knock .lobby := by
  intro now
  have hFiled : now.state.Filed := (filed_new .alice .default).perform obliging () disguised
  have hKnown : now.state.known? "$knock" = some ⟨0⟩ := by decide +kernel
  have hRequest : now.state.request? ⟨0⟩ =
      some (.ofInfo .alice Settings.default.supportedMethods (.sentBy .bob "$knock")) := by
    decide +kernel
  refine ⟨meets_of_forall fun _ call _ => ?_, ?_, ?_⟩
  · cases call <;> trivial
  · rw [hFiled.yieldsOwnRequest_iff, knowsOther_iff hKnown hRequest, Classical.not_not]
    decide
  · rw [hFiled.yieldsRequestOfEvent_iff, Classical.not_not]
    exact .inl ((knowsOther_iff hKnown hRequest).mpr (by decide))

end DeviceTrust.Manager
