import DeviceTrust.Proofs.Manager.Filing
import DeviceTrust.Proofs.Manager.Replies
/-! # The tables of a manager

Whatever the engine and the transport answer, a table never names anything under another flow id than
its own. The tables of tracked requests and of running flows name nothing that is over, and the table of
finished requests names nothing else.
-/

namespace DeviceTrust

/-! ## Reports -/

namespace Request

variable {request next : Request} {update : RequestUpdate} {changed : Bool}

theorem flow_apply : (request.apply update).1.flow = request.flow := by
  rw [apply]
  split
  · rfl
  · cases update <;> rfl

theorem state_apply_of_unchanged (h : (request.apply update).2 = false) :
    (request.apply update).1.state = request.state := by
  rw [apply] at h ⊢
  split at h
  · next hOver => rw [if_pos hOver]
  · next hLive =>
    rw [if_neg hLive]
    exact bne_eq_false_iff_eq.mp h

theorem flow_of_apply_eq (h : request.apply update = (next, changed)) : next.flow = request.flow := by
  have hFlow : (request.apply update).1.flow = request.flow := flow_apply
  rwa [h] at hFlow

theorem isTerminal_of_apply_eq (h : request.apply update = (next, changed))
    (hBefore : request.state.isTerminal = false)
    (hLive : changed = true → next.state.isTerminal = false) : next.state.isTerminal = false := by
  cases changed with
  | true => exact hLive rfl
  | false =>
    have hState : (request.apply update).1.state = request.state :=
      state_apply_of_unchanged (congrArg Prod.snd h)
    rw [h] at hState
    exact hState ▸ hBefore

end Request

theorem Sas.state_apply_of_unchanged {sas : Sas} {update : SasUpdate}
    (h : (sas.apply update).2 = false) : (sas.apply update).1.state = sas.state := by
  rw [apply] at h ⊢
  split at h
  · next hTakes =>
    rw [if_pos hTakes]
    exact bne_eq_false_iff_eq.mp h
  · next hTakes => rw [if_neg hTakes]

theorem QrCode.state_apply_of_unchanged {qr : QrCode} {update : QrUpdate}
    (h : (qr.apply update).2 = false) : (qr.apply update).1.state = qr.state := by
  rw [apply] at h ⊢
  split at h
  · next hOver => rw [if_pos hOver]
  · next hLive =>
    rw [if_neg hLive]
    exact bne_eq_false_iff_eq.mp h

namespace Flow

variable {value next : Flow} {changed : Bool}

theorem isTerminal_sas (sas : Sas) : (Flow.sas sas).isTerminal = sas.state.isTerminal := by
  rw [isTerminal, isDone, isCancelled, Sas.isDone, Sas.isCancelled]
  cases sas.state <;> rfl

theorem isTerminal_qr (qr : QrCode) : (Flow.qr qr).isTerminal = qr.state.isTerminal := by
  rw [isTerminal, isDone, isCancelled, QrCode.isDone, QrCode.isCancelled]
  cases qr.state <;> rfl

theorem Begun.isTerminal (h : value.Begun) : value.isTerminal = false := by
  cases h with
  | sas info => rfl
  | qr flow otherUser weStarted otherDevice => cases weStarted <;> rfl

theorem Reported.id_eq (h : value.Reported next changed) : next.id = value.id := by
  cases h with
  | sas sas update =>
    rw [Sas.apply]
    split
    · cases update <;> rfl
    · rfl
  | qr qr update =>
    rw [QrCode.apply]
    split
    · rfl
    · cases update <;> rfl

theorem Reported.isTerminal (h : value.Reported next changed) (hBefore : value.isTerminal = false)
    (hLive : changed = true → next.isTerminal = false) : next.isTerminal = false := by
  cases h with
  | sas sas update =>
    cases hChanged : (sas.apply update).2 with
    | true => exact hLive hChanged
    | false =>
      rw [isTerminal_sas] at hBefore ⊢
      rwa [Sas.state_apply_of_unchanged hChanged]
  | qr qr update =>
    cases hChanged : (qr.apply update).2 with
    | true => exact hLive hChanged
    | false =>
      rw [isTerminal_qr] at hBefore ⊢
      rwa [QrCode.state_apply_of_unchanged hChanged]

end Flow

namespace Manager

/-- Requests are kept under the texts of their own flow ids, those that are over in one table and the
others in the other. -/
structure RequestsFiled (m : Manager) : Prop where
  tracked : m.requests.Files (·.flow.text) (·.state.isTerminal) false m.tracked
  finished : m.requests.Files (·.flow.text) (·.state.isTerminal) true m.finished

/-- Requests and flows are kept under the texts of their own flow ids, and only finished requests are
over. -/
structure Filed (m : Manager) : Prop extends RequestsFiled m where
  running : m.flows.Files (·.id.text) Flow.isTerminal false m.running

variable {admits : Manager → RequestInfo → Prop} {m next : Manager} {flow : String}
  {handle : Handle Request} {request : Request} {flowHandle : Handle Flow} {value : Flow}

theorem RequestsFiled.of_tracked? (h : m.RequestsFiled)
    (hTracked : m.tracked? flow = some (handle, request)) :
    m.tracked[flow]? = some handle ∧ m.requests.get? handle = some request ∧
      request.flow.text = flow ∧ request.state.isTerminal = false := by
  obtain ⟨hKey, hRequest⟩ := tracked?_eq_some_iff.mp hTracked
  obtain ⟨found, hFound, hFlow, hLive⟩ := h.tracked flow handle hKey
  cases hRequest.symm.trans hFound
  exact ⟨hKey, hRequest, hFlow, hLive⟩

theorem RequestsFiled.change (h : m.RequestsFiled) (hChange : Change admits m next) :
    next.RequestsFiled := by
  cases hChange with
  | remember info _ hOver => exact ⟨h.tracked.add _, h.finished.enter rfl hOver⟩
  | track info isNew _ hLive => exact ⟨h.tracked.enter rfl hLive, h.finished.add _⟩
  | report hTracked hReported hLive =>
    obtain ⟨hKey, _, hFlow, hBefore⟩ := h.of_tracked? hTracked
    have hName := (congrArg FlowId.text (Request.flow_of_apply_eq hReported)).trans hFlow
    have hStill := Request.isTerminal_of_apply_eq hReported hBefore hLive
    exact ⟨h.tracked.set_filed hKey hName hStill,
      h.finished.set_unfiled fun _ => h.tracked.apart h.finished hKey⟩
  | finish hTracked hReported hOver =>
    obtain ⟨hKey, hRequest, hFlow, _⟩ := h.of_tracked? hTracked
    have hName := (congrArg FlowId.text (Request.flow_of_apply_eq hReported)).trans hFlow
    refine ⟨h.tracked.set_erase hKey, ?_⟩
    exact (h.finished.set_unfiled fun _ => h.tracked.apart h.finished hKey).insert
      (Registry.get?_set_self hRequest) hName hOver
  | enter | run | advance | release | dropQr | noteDevice | settle => exact ⟨h.tracked, h.finished⟩

theorem Filed.of_running? (h : m.Filed) (hRunning : m.running? flow = some (flowHandle, value)) :
    m.running[flow]? = some flowHandle ∧ value.id.text = flow ∧ value.isTerminal = false := by
  obtain ⟨hKey, hFlow⟩ := running?_eq_some_iff.mp hRunning
  obtain ⟨found, hFound, hName, hLive⟩ := h.running flow flowHandle hKey
  cases hFlow.symm.trans hFound
  exact ⟨hKey, hName, hLive⟩

theorem Filed.change (h : m.Filed) (hChange : Change admits m next) : next.Filed := by
  refine ⟨h.toRequestsFiled.change hChange, ?_⟩
  cases hChange with
  | enter hBegun => exact h.running.add _
  | run isNew hBegun => exact h.running.enter rfl hBegun.isTerminal
  | advance hRunning hReported hLive =>
    obtain ⟨hKey, hName, hBefore⟩ := h.of_running? hRunning
    exact h.running.set_filed hKey ((congrArg FlowId.text hReported.id_eq).trans hName)
      (hReported.isTerminal hBefore hLive)
  | release hRunning hReported =>
    -- The flow is let go under its own id, which is where it is kept.
    obtain ⟨hKey, hName, _⟩ := h.of_running? hRunning
    rw [hReported.id_eq, hName]
    exact h.running.set_erase hKey
  | dropQr => exact h.running.erase _
  | @noteDevice handle qr device hFlow =>
    -- The device of a flow decides neither where it is kept nor whether it is over.
    intro key found hKey
    obtain ⟨value, hFound, hName, hLive⟩ := h.running key found hKey
    by_cases hHandle : handle = found
    · subst hHandle
      cases hFlow.symm.trans hFound
      exact ⟨_, Registry.get?_set_self hFound, hName, hLive⟩
    · exact ⟨value, (Registry.get?_set_of_ne hHandle).trans hFound, hName, hLive⟩
  | remember | track | report | finish | settle => exact h.running

theorem Filed.changes (h : m.Filed) (hChanges : Changes admits m next) : next.Filed := by
  induction hChanges with
  | refl => exact h
  | tail _ hChange ih => exact ih.change hChange

theorem filed_new (ownUser : UserId) (settings : Settings) : (new ownUser settings).Filed :=
  ⟨⟨.empty, .empty⟩, .empty⟩

/-- After every run the tables name requests and flows under their own flow ids, and what they name is
over just in the table of finished requests. -/
theorem tables_filed {σ : Type} (ownUser : UserId) (settings : Settings) (answer : Collaborators σ)
    (world : σ) (commands : List Command) :
    ((perform commands).run answer (new ownUser settings) world).state.Filed := by
  -- Nothing is assumed of the engine, so any request may be entered.
  have hAdmitted : Admitted (fun _ _ _ => True) fun _ _ => True :=
    ⟨fun _ _ _ _ _ _ => trivial, fun _ _ _ _ _ => trivial⟩
  have hMeets : (perform commands).Meets (fun _ _ _ => True) answer (new ownUser settings) world :=
    Operation.meets_of_forall fun _ _ _ => trivial
  have hChanges := (Does.perform hAdmitted commands (new ownUser settings)).of_run hMeets
  exact (filed_new ownUser settings).changes hChanges

end Manager

end DeviceTrust
