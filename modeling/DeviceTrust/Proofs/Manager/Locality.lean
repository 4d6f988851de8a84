import DeviceTrust.Proofs.Manager.Incoming
/-! # What a command leaves alone

A command that fails leaves the manager as it was. One that succeeds only touches what belongs to its own
flow id: the objects of other flows, their entries in the tables and their archived outcomes stay as they
are. A request or short auth strings that a command starts are entered only if their message was sent.
-/

namespace DeviceTrust

/-- Objects with another name are the same in both registries. -/
def Registry.SameApart {α : Type} (name : α → String) (key : String) (registry other : Registry α) :
    Prop :=
  ∀ (index : Nat) cell, name cell.value ≠ key →
    (other.cells[index]? = some cell ↔ registry.cells[index]? = some cell)

namespace Registry.SameApart

variable {α : Type} {name : α → String} {key : String} {registry : Registry α} {handle : Handle α}
  {a b : α}

theorem refl (name : α → String) (key : String) (registry : Registry α) :
    SameApart name key registry registry := fun _ _ _ => Iff.rfl

theorem add (hName : name a = key) : SameApart name key registry (registry.add a).2 := by
  intro index cell hOther
  by_cases hIndex : index = registry.cells.size
  · subst hIndex
    have hNew : cell ≠ ⟨a, 0⟩ := by
      rintro rfl
      exact hOther hName
    simp [Registry.add, hNew.symm]
  · simp [Registry.add, Array.getElem?_push, hIndex]

theorem set (hGet : registry.get? handle = some a) (hName : name a = key) (hNext : name b = key)
    (changed : Bool) : SameApart name key registry (registry.set handle b changed) := by
  intro index cell hOther
  by_cases hIndex : handle.index = index
  · subst hIndex
    obtain ⟨old, hOld, rfl⟩ := Option.map_eq_some_iff.mp hGet
    refine iff_of_false ?_ ?_
    · intro hCell
      have hFound : (registry.set handle b changed).get? handle = some cell.value :=
        congrArg (Option.map Cell.value) hCell
      rw [get?_set_self hGet] at hFound
      exact hOther (Option.some.inj hFound ▸ hNext)
    · intro hCell
      exact hOther (Option.some.inj (hOld.symm.trans hCell) ▸ hName)
  · simp [Registry.set, Array.getElem?_modify, hIndex]

end Registry.SameApart

namespace Manager

open Operation

def Announced (m : Manager) (flow : String) : Notice → Prop
  | .newRequest handle | .requestChanged handle | .requestRemoved handle =>
    ∃ request, m.request? handle = some request ∧ request.flow.text = flow
  | .newFlow handle | .flowChanged handle | .flowRemoved handle =>
    ∃ value, m.flow? handle = some value ∧ value.id.text = flow

/-- Only what belongs to that flow differs, and only such is announced. -/
structure LocalTo (flow : String) (m next : Manager) : Prop where
  settings : next.settings = m.settings
  requests : m.requests.SameApart (·.flow.text) flow next.requests
  flows : m.flows.SameApart (·.id.text) flow next.flows
  tracked : ∀ key : String, key ≠ flow → next.tracked[key]? = m.tracked[key]?
  finished : ∀ key : String, key ≠ flow → next.finished[key]? = m.finished[key]?
  running : ∀ key : String, key ≠ flow → next.running[key]? = m.running[key]?
  archive : next.archive.ownUser = m.archive.ownUser ∧ next.archive.sorts = m.archive.sorts ∧
    ∀ event : EventId, event.text ≠ flow → next.archive.outcome? event = m.archive.outcome? event
  feed : ∃ notices, next.feed.sent = m.feed.sent ++ notices ∧
    ∀ notice ∈ notices, next.Announced flow notice

variable {assumes : Manager → (call : Call) → call.Answer → Prop} {m next : Manager} {flow : String}
  {handle : Handle Request} {request : Request} {flowHandle : Handle Flow} {value moved : Flow}
  {info : RequestInfo} {changed : Bool}

namespace LocalTo

theorem nothing_announced (h : next.feed = m.feed) : ∃ notices,
    next.feed.sent = m.feed.sent ++ notices ∧ ∀ notice ∈ notices, next.Announced flow notice :=
  ⟨[], by rw [h, List.append_nil], nofun⟩

theorem refl (flow : String) (m : Manager) : LocalTo flow m m where
  settings := rfl
  requests := Registry.SameApart.refl _ _ _
  flows := Registry.SameApart.refl _ _ _
  tracked _ _ := rfl
  finished _ _ := rfl
  running _ _ := rfl
  archive := ⟨rfl, rfl, fun _ _ => rfl⟩
  feed := nothing_announced rfl

theorem addRequest (hName : info.flow.text = flow) (isNew : Bool) :
    LocalTo flow m (m.addRequest info isNew).2 := by
  subst hName
  have hSame : m.requests.SameApart (·.flow.text) info.flow.text
      (m.requests.add (m.requestOf info)).2 := .add rfl
  have hEntered := m.addRequest_entered info isNew
  generalize m.addRequest info isNew = entered at hEntered ⊢
  cases hEntered with
  | remembered =>
    exact { refl info.flow.text m with
      requests := hSame
      finished := fun key hKey => Table.getElem?_insert_of_ne hKey.symm
      feed := nothing_announced rfl }
  | tracked =>
    have hTracked (key : String) (hKey : key ≠ info.flow.text) :
        (m.tracked.insert info.flow.text (m.requests.add (m.requestOf info)).1)[key]? =
          m.tracked[key]? :=
      Table.getElem?_insert_of_ne hKey.symm
    cases isNew with
    | false =>
      exact { refl info.flow.text m with
        requests := hSame
        tracked := hTracked
        feed := nothing_announced rfl }
    | true =>
      have hNew : ∃ request, (m.requests.add (m.requestOf info)).2.get?
          (m.requests.add (m.requestOf info)).1 = some request ∧
            request.flow.text = info.flow.text := ⟨_, m.requests.get?_add_self _, rfl⟩
      exact { refl info.flow.text m with
        requests := hSame
        tracked := hTracked
        feed := ⟨[.newRequest _], rfl, List.forall_mem_singleton.mpr hNew⟩ }

theorem enterFlow (value : Flow) (hName : value.id.text = flow) : LocalTo flow m (m.enterFlow value).2 :=
  { refl flow m with
    flows := Registry.SameApart.add hName
    feed := nothing_announced rfl }

theorem addFlow (value : Flow) (hName : value.id.text = flow) (isNew : Bool) :
    LocalTo flow m (m.addFlow value isNew).2 := by
  subst hName
  have hEntered : m.flows.SameApart (·.id.text) value.id.text (m.flows.add value).2 := .add rfl
  have hRunning (key : String) (hKey : key ≠ value.id.text) :
      (m.running.insert value.id.text (m.flows.add value).1)[key]? = m.running[key]? :=
    Table.getElem?_insert_of_ne hKey.symm
  cases isNew with
  | false =>
    exact { refl value.id.text m with
      flows := hEntered
      running := hRunning
      feed := nothing_announced rfl }
  | true =>
    exact { refl value.id.text m with
      flows := hEntered
      running := hRunning
      feed := ⟨[.newFlow _], rfl,
        List.forall_mem_singleton.mpr ⟨value, m.flows.get?_add_self value, rfl⟩⟩ }

theorem dropQr (flow : String) : LocalTo flow m (m.dropQr flow) := by
  rw [Manager.dropQr]
  split
  · exact { refl flow m with
      running := fun key hKey => Table.getElem?_erase_of_ne hKey.symm
      feed := nothing_announced rfl }
  · exact refl flow m

theorem settle (event : EventId) (events : List HistoryEvent) :
    LocalTo event.text m { m with archive := (m.archive.settle event (.ok events)).2 } :=
  { refl event.text m with
    archive := ⟨rfl, rfl, fun _ hOther =>
      Table.getElem?_insert_of_ne fun h => hOther (congrArg EventId.text h.symm)⟩
    feed := nothing_announced rfl }

theorem noteDevice (device : String)
    (hOwn : ∀ value, m.flow? flowHandle = some value → value.id.text = flow) :
    LocalTo flow m (m.noteDevice flowHandle device) := by
  rw [Manager.noteDevice]
  split
  · next qr hFlow =>
    have hName := hOwn _ hFlow
    exact { refl flow m with
      flows := Registry.SameApart.set hFlow hName hName false
      feed := nothing_announced rfl }
  · exact refl flow m

theorem of_requestReported {update : RequestUpdate} (hFiled : m.Filed)
    (hTracked : m.tracked? flow = some (handle, request))
    (h : RequestReported m flow handle request update next) : LocalTo flow m next := by
  obtain ⟨_, hRequest, hFlow, _⟩ := hFiled.of_tracked? hTracked
  have hMoved : (request.apply update).1.flow.text = flow :=
    (congrArg FlowId.text Request.flow_apply).trans hFlow
  have hSame (changed : Bool) : m.requests.SameApart (·.flow.text) flow
      (m.requests.set handle (request.apply update).1 changed) := .set hRequest hFlow hMoved changed
  have hNamed : ∃ moved, (m.requests.set handle (request.apply update).1 true).get? handle =
      some moved ∧ moved.flow.text = flow := ⟨_, Registry.get?_set_self hRequest, hMoved⟩
  cases h with
  | unmoved => exact { refl flow m with requests := hSame false, feed := nothing_announced rfl }
  | moved =>
    exact { refl flow m with
      requests := hSame true
      feed := ⟨[.requestChanged handle], rfl, List.forall_mem_singleton.mpr hNamed⟩ }
  | ended =>
    exact { refl flow m with
      requests := hSame true
      tracked := fun key hKey => Table.getElem?_erase_of_ne hKey.symm
      finished := fun key hKey => Table.getElem?_insert_of_ne hKey.symm
      feed := ⟨[.requestChanged handle, .requestRemoved handle], List.append_assoc ..,
        List.forall_mem_cons.mpr ⟨hNamed, List.forall_mem_singleton.mpr hNamed⟩⟩ }

theorem of_flowReported (hFiled : m.Filed) (hRunning : m.running? flow = some (flowHandle, value))
    (hReported : value.Reported moved changed) (h : FlowReported m flowHandle moved changed next) :
    LocalTo flow m next := by
  obtain ⟨_, hName, _⟩ := hFiled.of_running? hRunning
  have hFlow : m.flows.get? flowHandle = some value := (running?_eq_some_iff.mp hRunning).2
  have hMoved : moved.id.text = flow := (congrArg FlowId.text hReported.id_eq).trans hName
  have hSame : m.flows.SameApart (·.id.text) flow (m.flows.set flowHandle moved changed) :=
    .set hFlow hName hMoved changed
  have hNamed : ∃ found, (m.flows.set flowHandle moved changed).get? flowHandle = some found ∧
      found.id.text = flow := ⟨_, Registry.get?_set_self hFlow, hMoved⟩
  cases h with
  | unmoved => exact { refl flow m with flows := hSame, feed := nothing_announced rfl }
  | moved =>
    exact { refl flow m with
      flows := hSame
      feed := ⟨[.flowChanged flowHandle], rfl, List.forall_mem_singleton.mpr hNamed⟩ }
  | ended =>
    exact { refl flow m with
      flows := hSame
      running := fun key hKey => Table.getElem?_erase_of_ne (hMoved ▸ hKey.symm)
      feed := ⟨[.flowChanged flowHandle, .flowRemoved flowHandle], List.append_assoc ..,
        List.forall_mem_cons.mpr ⟨hNamed, List.forall_mem_singleton.mpr hNamed⟩⟩ }

end LocalTo

theorem request?_addRequest {isNew : Bool} :
    (m.addRequest info isNew).2.request? (m.addRequest info isNew).1 = some (m.requestOf info) := by
  have hEntered := m.addRequest_entered info isNew
  generalize m.addRequest info isNew = entered at hEntered ⊢
  cases hEntered with
  | remembered | tracked => exact m.requests.get?_add_self (m.requestOf info)

theorem exists_flow_name (m : Manager) (handle : Handle Flow) :
    ∃ flow : String, ∀ value, m.flow? handle = some value → value.id.text = flow := by
  cases hFlow : m.flow? handle with
  | none => exact ⟨"", fun _ h => by cases h⟩
  | some value => exact ⟨value.id.text, fun _ h => congrArg (·.id.text) (Option.some.inj h).symm⟩

/-! ## Failures -/

theorem Ends.eq_of_failed {command : Command} (h : Ends assumes m command .failed next) :
    next = m := by
  cases h
  rfl

/-- Every message that the engine makes to start something is among the calls, and nothing that is sent
fails. -/
def Delivered (calls : List Call) (_ : Manager) : (call : Call) → call.Answer → Prop
  | .request .., .ok (some new) => ∀ message ∈ new.message, .send message ∈ calls
  | .startSas .., some started => .send started.message ∈ calls
  | .send _, .error _ => False
  | _, _ => True

def Command.Starts : Command → Prop
  | .requestToDevice .. | .requestInRoom .. | .beginSas .. => True
  | _ => False

section Delivery

variable {σ α ε : Type} {answer : Collaborators σ} {world : σ} {calls : List Call}

theorem send_mem_calls {message : Message} {k : Except VerificationError Unit → Operation Manager α} :
    .send message ∈ ((deliver message >>= k).run answer m world).calls := by
  rw [deliver, bind_assoc, run_call_bind]
  exact List.mem_cons_self

theorem deliver_bind_delivered {message : Message}
    {k : Except VerificationError Unit → Operation Manager (Except VerificationError α)} {a : α}
    (hStops : ∀ error, k (.error error) = done (.error error))
    (hRest : ∀ world, (k (.ok ())).Meets (Delivered calls) answer m world)
    (h : ((deliver message >>= k).run answer m world).value = .ok a) :
    (deliver message >>= k).Meets (Delivered calls) answer m world := by
  rw [deliver, bind_assoc, run_call_bind] at h
  rw [deliver, bind_assoc, meets_call_bind]
  cases hSent : (answer (.send message) world).1 with
  | error error =>
    rw [hSent] at h
    simp only [pure_bind, hStops] at h
    cases h
  | ok sent => exact ⟨trivial, hRest _⟩

theorem requestFrom_delivered {target : Target} {methods : Option (List Method)}
    (h : ((requestFrom target methods).run answer m world).value = .ok handle)
    (hCalls : ((requestFrom target methods).run answer m world).calls ⊆ calls) :
    (requestFrom target methods).Meets (Delivered calls) answer m world := by
  rw [requestFrom, run_read_bind, run_call_bind] at h hCalls
  rw [requestFrom, meets_read_bind, meets_call_bind]
  revert h hCalls
  generalize answer (.request target (methods.getD m.settings.supportedMethods)) world = made
  obtain ⟨error | _ | ⟨info, _ | message⟩, world⟩ := made
  · exact fun _ _ => ⟨trivial, trivial⟩
  · exact fun _ _ => ⟨trivial, trivial⟩
  · exact fun _ _ => ⟨fun _ h => absurd h (Option.not_mem_none _), trivial⟩
  · intro h hCalls
    refine ⟨?_, deliver_bind_delivered (fun _ => rfl) (fun _ => trivial) h⟩
    rintro _ ⟨⟩
    exact hCalls (List.mem_cons_of_mem _ send_mem_calls)

theorem startSas_delivered {sas : Sas} (h : (request.startSas.run answer m world).value = .ok sas)
    (hCalls : (request.startSas.run answer m world).calls ⊆ calls) :
    request.startSas.Meets (Delivered calls) answer m world := by
  rw [Request.startSas, run_call_bind] at h hCalls
  rw [Request.startSas, meets_call_bind]
  revert h hCalls
  generalize answer (.startSas request.otherUser request.flow.text) world = made
  obtain ⟨_ | started, world⟩ := made
  · exact fun _ _ => ⟨trivial, trivial⟩
  · intro h hCalls
    have hSent := hCalls (List.mem_cons_of_mem _ send_mem_calls)
    exact ⟨hSent, deliver_bind_delivered (fun _ => rfl) (fun _ => trivial) h⟩

theorem beginSas_delivered (h : ((beginSas request).run answer m world).value = .ok flowHandle)
    (hCalls : ((beginSas request).run answer m world).calls ⊆ calls) :
    (beginSas request).Meets (Delivered calls) answer m world := by
  rw [beginSas, run_bind] at h hCalls
  rw [beginSas, meets_bind]
  cases hStarted : (request.startSas.run answer m world).value with
  | error error =>
    rw [hStarted] at h
    cases h
  | ok sas =>
    have hBefore := List.Subset.trans (List.subset_append_left _ _) hCalls
    exact ⟨startSas_delivered hStarted hBefore, trivial⟩

theorem requestToDevice_delivered {user : UserId} {devices : List String}
    {methods : Option (List Method)}
    (h : ((requestToDevice user devices methods).run answer m world).value = .ok handle)
    (hCalls : ((requestToDevice user devices methods).run answer m world).calls ⊆ calls) :
    (requestToDevice user devices methods).Meets (Delivered calls) answer m world := by
  unfold requestToDevice at h hCalls ⊢
  rw [run_read_bind] at h hCalls
  rw [meets_read_bind]
  by_cases hOwn : user = m.ownUser
  · rw [if_pos hOwn] at h hCalls ⊢
    exact requestFrom_delivered h hCalls
  · rw [if_neg hOwn] at h hCalls ⊢
    cases devices with
    | nil => trivial
    | cons device rest => exact requestFrom_delivered h hCalls

theorem Reply.exists_ok_of_ne_failed {wrap : α → Reply} {result : Except ε α}
    (h : Reply.ofExcept wrap result ≠ .failed) : ∃ a, result = .ok a := by
  cases result with
  | error error => exact absurd rfl h
  | ok a => exact ⟨a, rfl⟩

theorem Command.reply_delivered {command : Command} (hStarts : command.Starts)
    (h : (command.reply.run answer m world).value ≠ .failed) :
    command.reply.Meets (Delivered (command.reply.run answer m world).calls) answer m world := by
  cases command with
  | requestToDevice user devices methods =>
    rw [reply, run_map] at h ⊢
    obtain ⟨handle, hValue⟩ := Reply.exists_ok_of_ne_failed h
    exact meets_map.mpr (requestToDevice_delivered hValue (List.Subset.refl _))
  | requestInRoom user room event methods =>
    rw [reply, run_map] at h ⊢
    obtain ⟨handle, hValue⟩ := Reply.exists_ok_of_ne_failed h
    exact meets_map.mpr (requestFrom_delivered hValue (List.Subset.refl _))
  | beginSas request =>
    rw [reply, run_map] at h ⊢
    obtain ⟨handle, hValue⟩ := Reply.exists_ok_of_ne_failed h
    exact meets_map.mpr (beginSas_delivered hValue (List.Subset.refl _))
  | _ => exact hStarts.elim

end Delivery

/-! ## Success -/

/-- What the engine tells of a flow that it was asked for has that flow id. -/
def NamedAsAsked (_ : Manager) : (call : Call) → call.Answer → Prop
  | .findRequest _ flow, some info => info.flow.text = flow
  | .findFlow _ flow, some (.sas info) => info.flow.text = flow
  | .findFlow _ flow, some (.qr info) => info.flow.text = flow
  | .startSas _ flow, some started => started.info.flow.text = flow
  | .startQr _ flow, some info => info.flow.text = flow
  | .request (.room _ _ event) _, .ok (some new) => new.info.flow.text = event.text
  | _, _ => True

/-- The flow id that a command is about. A request to devices gets it from the engine. -/
def Command.IsAbout (m : Manager) (reply : Reply) (next : Manager) (flow : String) :
    Command → Prop
  | .requestToDevice .. => ∃ handle request, reply = .request handle ∧
    next.request? handle = some request ∧ request.flow.text = flow
  | .requestInRoom _ _ event _ | .keyVerification _ event _ => event.text = flow
  | .incomingRequest _ own | .incomingFlow _ own | .qrFlow own | .removeQr own
  | .requestUpdated own _ | .sasUpdated own _ | .qrUpdated own _ => own = flow
  | .beginSas request | .startSas request | .startQr request => request.flow.text = flow
  | .scan handle _ _ => ∀ value, m.flow? handle = some value → value.id.text = flow

theorem Ends.localTo {command : Command} {reply : Reply} (hFiled : m.Filed)
    (h : Ends NamedAsAsked m command reply next) (hSucceeds : reply ≠ .failed) :
    ∃ flow, command.IsAbout m reply next flow ∧ LocalTo flow m next := by
  cases h with
  | failed => exact absurd rfl hSucceeds
  | known | qrStayed | qrKept | lookedUp | archived => exact ⟨_, rfl, .refl _ m⟩
  | @requested _ _ _ _ new =>
    have hEntered : (m.addRequest new.info false).2.request? (m.addRequest new.info false).1 =
        some (m.requestOf new.info) := request?_addRequest
    exact ⟨_, ⟨_, _, rfl, hEntered, rfl⟩, .addRequest rfl false⟩
  | requestedInRoom hNamed | restored _ hNamed => exact ⟨_, rfl, .addRequest hNamed false⟩
  | came _ hNamed => exact ⟨_, rfl, .addRequest hNamed true⟩
  | sasCame hNamed => exact ⟨_, rfl, .addFlow (.sas (.new _)) hNamed true⟩
  | qrCame _ hNamed => exact ⟨_, rfl, .addFlow (.qr (.new _)) hNamed false⟩
  | sasBegun hNamed => exact ⟨_, rfl, .addFlow (.sas (.new _)) hNamed false⟩
  | qrBegun hTracked hNamed =>
    have hFlow := (hFiled.of_tracked? hTracked).2.2.1
    exact ⟨_, rfl, .addFlow (.qr (.new _)) (hNamed.trans hFlow) false⟩
  | @qrScanOnly _ _ request hTracked =>
    have hFlow := (hFiled.of_tracked? hTracked).2.2.1
    exact ⟨_, rfl, .addFlow (.qr request.scanOnly) hFlow false⟩
  | qrRemoved => exact ⟨_, rfl, .dropQr _⟩
  | judged => exact ⟨_, rfl, .settle ..⟩
  | requestUpdated hTracked =>
    exact ⟨_, rfl, .of_requestReported hFiled hTracked (reportRequest_reported hTracked)⟩
  | sasUpdated hRunning =>
    exact ⟨_, rfl, .of_flowReported hFiled hRunning (.sas ..) (reportFlow_reported hRunning rfl)⟩
  | qrUpdated hRunning =>
    exact ⟨_, rfl, .of_flowReported hFiled hRunning (.qr ..) (reportFlow_reported hRunning rfl)⟩
  | sasEntered hNamed => exact ⟨_, rfl, .enterFlow (.sas (.new _)) hNamed⟩
  | qrEntered hNamed => exact ⟨_, rfl, .enterFlow (.qr (.new _)) hNamed⟩
  | @unscanned handle =>
    obtain ⟨flow, hOwn⟩ := m.exists_flow_name handle
    exact ⟨flow, hOwn, .refl flow m⟩
  | @scanned handle _ _ device =>
    obtain ⟨flow, hOwn⟩ := m.exists_flow_name handle
    exact ⟨flow, hOwn, .noteDevice device hOwn⟩

/-- In every run, a command that fails changes nothing, one that starts something delivers what it sends,
and one that succeeds changes nothing but what belongs to its own flow id. -/
theorem fails_atomically_and_succeeds_locally {σ : Type} (ownUser : UserId) (settings : Settings)
    (answer : Collaborators σ) (world : σ) (before : List Command) (command : Command) :
    let now := (perform before).run answer (new ownUser settings) world
    let last := command.reply.run answer now.state now.world
    (last.value = .failed → last.state = now.state) ∧
      (command.Starts → last.value ≠ .failed →
        command.reply.Meets (Delivered last.calls) answer now.state now.world) ∧
      (command.reply.Meets NamedAsAsked answer now.state now.world → last.value ≠ .failed →
        ∃ flow, command.IsAbout now.state last.value last.state flow ∧
          LocalTo flow now.state last.state) := by
  intro now last
  have hFiled : now.state.Filed := (filed_new ownUser settings).perform answer world before
  refine ⟨?_, Command.reply_delivered, ?_⟩
  · intro hFailed
    have hMeets : command.reply.Meets (fun _ _ _ => True) answer now.state now.world :=
      meets_of_forall fun _ _ _ => trivial
    have hEnds : Ends _ now.state command last.value last.state := command.ends.of_run hMeets
    rw [hFailed] at hEnds
    exact hEnds.eq_of_failed
  · intro hNamed hSucceeds
    have hEnds : Ends _ now.state command last.value last.state := command.ends.of_run hNamed
    exact hEnds.localTo hFiled hSucceeds

open Sample in
theorem finished_beside_tracked :
    let now := (perform [.incomingRequest .bob "flow", .incomingRequest .carol "other"]).run obliging
      (new .alice .default) ()
    let last := (Command.requestUpdated "other" .done).reply.run obliging now.state now.world
    last.state.tracked["other"]? = none ∧ now.state.tracked["flow"]?.isSome ∧
      last.state.tracked["flow"]? = now.state.tracked["flow"]? := by
  intro now last
  have hNamed : (Command.requestUpdated "other" .done).reply.Meets NamedAsAsked obliging now.state
      now.world := by
    refine meets_of_forall fun _ call _ => ?_
    cases call with
    | request target => cases target <;> trivial
    | _ => trivial
  have hSucceeds : last.value ≠ .failed := by decide +kernel
  obtain ⟨flow, rfl, hLocal⟩ := (fails_atomically_and_succeeds_locally .alice .default obliging ()
    [.incomingRequest .bob "flow", .incomingRequest .carol "other"]
    (.requestUpdated "other" .done)).2.2 hNamed hSucceeds
  refine ⟨?_, ?_, hLocal.tracked "flow" (by decide)⟩
  · decide +kernel
  · decide +kernel

end Manager

end DeviceTrust
