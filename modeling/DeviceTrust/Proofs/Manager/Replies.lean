import DeviceTrust.Proofs.Manager.Commands
import DeviceTrust.Proofs.Manager.Reports
/-! # How commands end

What a client gets back for a command, together with all that the command did. A command comes to one
atomic change at most, and a failed command to none, so what holds of the few changes holds of every
command. Which answers of the engine led to the end is kept with it.
-/

namespace DeviceTrust

open Operation

namespace Operation

variable {S α β σ : Type} {assumes : S → (call : Call) → call.Answer → Prop}
  {answer : Collaborators σ} {p : Operation S α} {s : S} {world : σ}

theorem ensures_map {f : α → β} {post : β → S → Prop} :
    (f <$> p).Ensures assumes post s ↔ p.Ensures assumes (fun a => post (f a)) s := ensures_bind

theorem run_map {f : α → β} : (f <$> p).run answer s world =
    { p.run answer s world with value := f (p.run answer s world).value } := by
  refine (run_bind (k := fun a => done (f a))).trans ?_
  simp only [run, List.append_nil]

theorem meets_map {f : α → β} :
    (f <$> p).Meets assumes answer s world ↔ p.Meets assumes answer s world :=
  (meets_bind (k := fun a => done (f a))).trans (and_iff_left trivial)

theorem discard_map (f : α → β) : discard (f <$> p) = discard p :=
  bind_assoc p (fun a => done (f a)) fun _ => done ()

theorem discard_map_const {p : Operation S Unit} (b : β) : discard ((fun _ => b) <$> p) = p :=
  (discard_map fun _ => b).trans (bind_done_right p)

end Operation

namespace Manager

inductive Reply where
  | failed
  | request (handle : Handle Request)
  | flow (handle : Handle Flow)
  | archived (outcome : Outcome)
  | done
  deriving DecidableEq

namespace Reply

variable {ε α : Type}

def ofExcept (wrap : α → Reply) : Except ε α → Reply
  | .ok a => wrap a
  | .error _ => failed

def ofOption (wrap : α → Reply) : Option α → Reply
  | some a => wrap a
  | none => failed

def ofKeyVerification : KeyVerification → Reply
  | .request handle => request handle
  | .archived outcome => archived outcome

end Reply

def Command.reply : Command → Operation Manager Reply
  | .requestToDevice user devices methods =>
    .ofExcept .request <$> Manager.requestToDevice user devices methods
  | .requestInRoom user room event methods =>
    .ofExcept .request <$> Manager.requestInRoom user room event methods
  | .incomingRequest sender flow => .ofOption .request <$> Manager.incomingRequest sender flow
  | .incomingFlow sender flow => .ofOption .flow <$> Manager.incomingFlow sender flow
  | .beginSas request => .ofExcept .flow <$> Manager.beginSas request
  | .qrFlow flow => .ofOption .flow <$> Manager.qrFlow flow
  | .removeQr flow => (fun _ => .done) <$> Manager.removeQr flow
  | .keyVerification sender event room =>
    .ofExcept .ofKeyVerification <$> Manager.keyVerification sender event room
  | .requestUpdated flow update => .ofExcept (fun _ => .done) <$> Manager.requestUpdated flow update
  | .sasUpdated flow update => .ofExcept (fun _ => .done) <$> Manager.sasUpdated flow update
  | .qrUpdated flow update => .ofExcept (fun _ => .done) <$> Manager.qrUpdated flow update
  | .startSas request => .ofExcept .flow <$> Manager.startSas request
  | .startQr request => .ofExcept .flow <$> Manager.startQr request
  | .scan handle qr data => (fun _ => .done) <$> Manager.scan handle qr data

theorem Command.operation_eq (command : Command) : command.operation = discard command.reply := by
  cases command with
  | removeQr | scan => exact (discard_map_const Reply.done).symm
  | _ => exact (discard_map _).symm

/-- How a command can end. Apart from failures, each way out has its own reply and its own change, with
what was known and answered before. -/
inductive Ends (assumes : Manager → (call : Call) → call.Answer → Prop) (m : Manager) :
    Command → Reply → Manager → Prop
  | failed {command : Command} : Ends assumes m command .failed m
  | requested {user : UserId} {devices : List String} {methods : Option (List Method)}
    {target : Target} {new : NewRequest}
    (hMade : assumes m (.request target (methods.getD m.settings.supportedMethods)) (.ok (some new))) :
    Ends assumes m (.requestToDevice user devices methods) (.request (m.addRequest new.info false).1)
      (m.addRequest new.info false).2
  | requestedInRoom {user : UserId} {room : RoomId} {event : EventId}
    {methods : Option (List Method)} {new : NewRequest}
    (hMade : assumes m (.request (.room user room event)
      (methods.getD m.settings.supportedMethods)) (.ok (some new))) :
    Ends assumes m (.requestInRoom user room event methods)
      (.request (m.addRequest new.info false).1) (m.addRequest new.info false).2
  | known {sender : UserId} {flow : String} {handle : Handle Request}
    (hKnown : m.known? flow = some handle) :
    Ends assumes m (.incomingRequest sender flow) (.request handle) m
  | came {sender : UserId} {flow : String} {info : RequestInfo} (hUnknown : m.known? flow = none)
    (hFound : assumes m (.findRequest sender flow) (some info)) :
    Ends assumes m (.incomingRequest sender flow) (.request (m.addRequest info true).1)
      (m.addRequest info true).2
  | sasCame {sender : UserId} {flow : String} {info : FlowInfo}
    (hFound : assumes m (.findFlow sender flow) (some (.sas info))) :
    Ends assumes m (.incomingFlow sender flow) (.flow (m.addFlow (.sas (.new info)) true).1)
      (m.addFlow (.sas (.new info)) true).2
  | qrStayed {sender : UserId} {flow : String} {handle : Handle Flow}
    (hRunning : m.runningQr? flow = some handle) :
    Ends assumes m (.incomingFlow sender flow) (.flow handle) m
  | qrCame {sender : UserId} {flow : String} {info : FlowInfo} (hNone : m.runningQr? flow = none)
    (hFound : assumes m (.findFlow sender flow) (some (.qr info))) :
    Ends assumes m (.incomingFlow sender flow) (.flow (m.addFlow (.qr (.new info)) false).1)
      (m.addFlow (.qr (.new info)) false).2
  | sasBegun {request : Request} {started : StartedFlow}
    (hStarted : assumes m (.startSas request.otherUser request.flow.text) (some started)) :
    Ends assumes m (.beginSas request) (.flow (m.addFlow (.sas (.new started.info)) false).1)
      (m.addFlow (.sas (.new started.info)) false).2
  | qrKept {flow : String} {handle : Handle Flow} (hRunning : m.runningQr? flow = some handle) :
    Ends assumes m (.qrFlow flow) (.flow handle) m
  | qrBegun {flow : String} {handle : Handle Request} {request : Request} {info : FlowInfo}
    (hTracked : m.tracked? flow = some (handle, request))
    (hStarted : assumes m (.startQr request.otherUser request.flow.text) (some info)) :
    Ends assumes m (.qrFlow flow) (.flow (m.addFlow (.qr (.new info)) false).1)
      (m.addFlow (.qr (.new info)) false).2
  | qrScanOnly {flow : String} {handle : Handle Request} {request : Request}
    (hTracked : m.tracked? flow = some (handle, request)) :
    Ends assumes m (.qrFlow flow) (.flow (m.addFlow (.qr request.scanOnly) false).1)
      (m.addFlow (.qr request.scanOnly) false).2
  | qrRemoved {flow : String} : Ends assumes m (.removeQr flow) .done (m.dropQr flow)
  | lookedUp {sender : UserId} {event : EventId} {room : RoomId} {handle : Handle Request}
    (hKnown : m.known? event.text = some handle) :
    Ends assumes m (.keyVerification sender event room) (.request handle) m
  | restored {sender : UserId} {event : EventId} {room : RoomId} {info : RequestInfo}
    (hUnknown : m.known? event.text = none)
    (hFound : assumes m (.findRequest sender event.text) (some info)) :
    Ends assumes m (.keyVerification sender event room) (.request (m.addRequest info false).1)
      (m.addRequest info false).2
  | archived {sender : UserId} {event : EventId} {room : RoomId} {outcome : Outcome}
    (hOutcome : m.archive.outcome? event = some outcome) :
    Ends assumes m (.keyVerification sender event room) (.archived outcome) m
  | judged {sender : UserId} {event : EventId} {room : RoomId} {events : List HistoryEvent}
    (hHistory : assumes m (.history room event) (.ok events)) :
    Ends assumes m (.keyVerification sender event room) (.archived (m.archive.judge events))
      { m with archive := (m.archive.settle event (.ok events)).2 }
  | requestUpdated {flow : String} {update : RequestUpdate} {handle : Handle Request}
    {request : Request} (hTracked : m.tracked? flow = some (handle, request)) :
    Ends assumes m (.requestUpdated flow update) .done (m.reportRequest flow update)
  | sasUpdated {flow : String} {update : SasUpdate} {handle : Handle Flow} {sas : Sas}
    (hRunning : m.running? flow = some (handle, .sas sas)) :
    Ends assumes m (.sasUpdated flow update) .done (m.reportFlow flow (sasStep update))
  | qrUpdated {flow : String} {update : QrUpdate} {handle : Handle Flow} {qr : QrCode}
    (hRunning : m.running? flow = some (handle, .qr qr)) :
    Ends assumes m (.qrUpdated flow update) .done (m.reportFlow flow (qrStep update))
  | sasEntered {request : Request} {started : StartedFlow}
    (hStarted : assumes m (.startSas request.otherUser request.flow.text) (some started)) :
    Ends assumes m (.startSas request) (.flow (m.enterFlow (.sas (.new started.info))).1)
      (m.enterFlow (.sas (.new started.info))).2
  | qrEntered {request : Request} {info : FlowInfo}
    (hStarted : assumes m (.startQr request.otherUser request.flow.text) (some info)) :
    Ends assumes m (.startQr request) (.flow (m.enterFlow (.qr (.new info))).1)
      (m.enterFlow (.qr (.new info))).2
  | unscanned {handle : Handle Flow} {qr : QrCode} {data : List UInt8} :
    Ends assumes m (.scan handle qr data) .done m
  | scanned {handle : Handle Flow} {qr : QrCode} {data : List UInt8} (device : String) :
    Ends assumes m (.scan handle qr data) .done (m.noteDevice handle device)

variable {assumes : Manager → (call : Call) → call.Answer → Prop} {m : Manager} {flow : String}
  {handle : Handle Request} {request : Request} {flowHandle : Handle Flow}

/-! ## Operations -/

theorem requestFrom_ensures {target : Target} {methods : Option (List Method)}
    {post : Except VerificationError (Handle Request) → Manager → Prop}
    (hError : ∀ error, post (.error error) m)
    (hOk : ∀ new,
      assumes m (.request target (methods.getD m.settings.supportedMethods)) (.ok (some new)) →
      post (.ok (m.addRequest new.info false).1) (m.addRequest new.info false).2) :
    (requestFrom target methods).Ensures assumes post m := by
  rw [requestFrom, ensures_read_bind, ensures_call_bind]
  rintro (error | _ | new) hMade
  · exact hError _
  · exact hError _
  -- Sending the message leaves the manager as it was when the engine was asked.
  · dsimp only
    cases new.message with
    | none => exact hOk new hMade
    | some message =>
      refine ensures_bind.mpr ((deliver_callsOnly message).ensures ?_)
      rintro (error | _)
      · exact hError error
      · exact hOk new hMade

theorem Command.ends_requestToDevice (user : UserId) (devices : List String)
    (methods : Option (List Method)) :
    (Command.requestToDevice user devices methods).reply.Ensures assumes
      (Ends assumes m (.requestToDevice user devices methods)) m := by
  rw [reply, ensures_map]
  refine ensures_read_bind.mpr ?_
  split
  · exact requestFrom_ensures (fun _ => .failed) fun _ hMade => .requested hMade
  · split
    · exact requestFrom_ensures (fun _ => .failed) fun _ hMade => .requested hMade
    · exact .failed

theorem Command.ends_incomingRequest (sender : UserId) (flow : String) :
    (Command.incomingRequest sender flow).reply.Ensures assumes
      (Ends assumes m (.incomingRequest sender flow)) m := by
  rw [reply, ensures_map, Manager.incomingRequest, ensures_knownRequest_bind]
  cases hKnown : m.known? flow with
  | some handle => exact .known hKnown
  | none =>
    refine ensures_call_bind.mpr ?_
    rintro (_ | info) hFound
    · exact .failed
    · exact .came hKnown hFound

theorem Command.ends_incomingFlow (sender : UserId) (flow : String) :
    (Command.incomingFlow sender flow).reply.Ensures assumes
      (Ends assumes m (.incomingFlow sender flow)) m := by
  rw [reply, ensures_map, Manager.incomingFlow, ensures_call_bind]
  rintro (_ | info | info) hFound
  · exact .failed
  · dsimp only
    rw [ensures_atomically_bind, ensures_read_bind]
    split
    · refine ensures_bind.mpr ((Sas.accept_callsOnly _).ensures fun _ => ?_)
      exact .sasCame hFound
    · exact .sasCame hFound
  · dsimp only
    rw [ensures_read_bind]
    cases hRunning : m.runningQr? flow with
    | some handle => exact .qrStayed hRunning
    | none => exact .qrCame hRunning hFound

theorem Command.ends_keyVerification (sender : UserId) (event : EventId) (room : RoomId) :
    (Command.keyVerification sender event room).reply.Ensures assumes
      (Ends assumes m (.keyVerification sender event room)) m := by
  rw [reply, ensures_map, Manager.keyVerification, ensures_knownRequest_bind]
  cases hKnown : m.known? event.text with
  | some handle => exact .lookedUp hKnown
  | none =>
    refine ensures_call_bind.mpr ?_
    rintro (_ | info) hFound
    · dsimp only
      rw [resolve, bind_assoc, ensures_read_bind]
      cases hOutcome : m.archive.outcome? event with
      | some outcome => exact .archived hOutcome
      | none =>
        refine ensures_call_bind.mpr ?_
        rintro (error | events) hHistory
        · exact .failed
        · exact .judged hHistory
    · exact .restored hKnown hFound

theorem Command.ends (command : Command) :
    command.reply.Ensures assumes (Ends assumes m command) m := by
  cases command with
  | requestToDevice user devices methods => exact ends_requestToDevice user devices methods
  | requestInRoom user room event methods =>
    rw [reply, ensures_map]
    exact requestFrom_ensures (fun _ => .failed) fun _ hMade => .requestedInRoom hMade
  | incomingRequest sender flow => exact ends_incomingRequest sender flow
  | incomingFlow sender flow => exact ends_incomingFlow sender flow
  | beginSas request =>
    rw [reply, ensures_map]
    refine ensures_bind.mpr (request.startSas_ensures ?_ ?_)
    · intro error
      exact .failed
    · intro started hStarted
      exact .sasBegun hStarted
  | qrFlow flow =>
    rw [reply, ensures_map]
    refine ensures_read_bind.mpr ?_
    cases hRunning : m.runningQr? flow with
    | some handle => exact .qrKept hRunning
    | none =>
      refine ensures_read_bind.mpr ?_
      cases hTracked : m.tracked? flow with
      | none => exact .failed
      | some found =>
        refine ensures_bind.mpr (found.2.startQr_ensures ?_ ?_)
        · intro error
          exact .qrScanOnly hTracked
        · intro info hStarted
          exact .qrBegun hTracked hStarted
  | removeQr flow =>
    rw [reply, ensures_map]
    exact .qrRemoved
  | keyVerification sender event room => exact ends_keyVerification sender event room
  | requestUpdated flow update =>
    rw [reply, ensures_map]
    exact requestUpdated_ensures (fun _ => .failed) fun _ _ hTracked => .requestUpdated hTracked
  | sasUpdated flow update =>
    rw [reply, ensures_map]
    refine flowUpdated_ensures (fun _ => .failed) ?_
    rintro handle (sas | qr) moved hRunning hStep
    · exact .sasUpdated hRunning
    · cases hStep
  | qrUpdated flow update =>
    rw [reply, ensures_map]
    refine flowUpdated_ensures (fun _ => .failed) ?_
    rintro handle (sas | qr) moved hRunning hStep
    · cases hStep
    · exact .qrUpdated hRunning
  | startSas request =>
    rw [reply, ensures_map]
    refine ensures_bind.mpr (request.startSas_ensures ?_ ?_)
    · intro error
      exact .failed
    · intro started hStarted
      exact .sasEntered hStarted
  | startQr request =>
    rw [reply, ensures_map]
    refine ensures_bind.mpr (request.startQr_ensures ?_ ?_)
    · intro error
      exact .failed
    · intro info hStarted
      exact .qrEntered hStarted
  | scan handle qr data =>
    rw [reply, ensures_map]
    refine ensures_bind.mpr ((qr.scan_callsOnly data).ensures ?_)
    rintro (_ | device)
    · exact .unscanned
    · exact .scanned device

theorem ensures_operation {command : Command} {post : Unit → Manager → Prop}
    (h : ∀ reply next, Ends assumes m command reply next → post () next) :
    command.operation.Ensures assumes post m := by
  rw [command.operation_eq]
  exact ensures_bind.mpr (command.ends.mono h)

/-! ## Changes -/

/-- The requests that operations may enter when the engine answers as is assumed: what it knows of flows
that the manager does not know, and what it makes. -/
structure Admitted (assumes : Manager → (call : Call) → call.Answer → Prop)
    (admits : Manager → RequestInfo → Prop) : Prop where
  found : ∀ m user flow info, m.known? flow = none →
    assumes m (.findRequest user flow) (some info) → admits m info
  made : ∀ m target methods new, assumes m (.request target methods) (.ok (some new)) →
    admits m new.info

def Does (assumes : Manager → (call : Call) → call.Answer → Prop)
    (admits : Manager → RequestInfo → Prop) {α : Type} (p : Operation Manager α) : Prop :=
  ∀ m, p.Ensures assumes (fun _ next => Changes admits m next) m

variable {admits : Manager → RequestInfo → Prop} {command : Command} {reply : Reply}
  {next : Manager}

theorem Ends.changes (hAdmitted : Admitted assumes admits) (h : Ends assumes m command reply next) :
    Changes admits m next := by
  cases h with
  | failed | known | qrStayed | qrKept | lookedUp | archived | unscanned => exact .refl m
  | requested hMade | requestedInRoom hMade =>
    exact addRequest_changes (hAdmitted.made m _ _ _ hMade) false
  | came hUnknown hFound =>
    exact addRequest_changes (hAdmitted.found m _ _ _ hUnknown hFound) true
  | restored hUnknown hFound =>
    exact addRequest_changes (hAdmitted.found m _ _ _ hUnknown hFound) false
  | sasCame => exact addFlow_changes (.sas ..) true
  | sasBegun => exact addFlow_changes (.sas ..) false
  | qrCame | qrBegun | qrScanOnly => exact addFlow_changes (.qr ..) false
  | qrRemoved => exact dropQr_changes m _
  | judged => exact (Change.settle _ _).changes
  | requestUpdated hTracked => exact (reportRequest_reported hTracked).changes hTracked
  | sasUpdated hRunning => exact (reportFlow_reported hRunning rfl).changes hRunning (.sas ..)
  | qrUpdated hRunning => exact (reportFlow_reported hRunning rfl).changes hRunning (.qr ..)
  | sasEntered => exact (Change.enter (.sas ..)).changes
  | qrEntered => exact (Change.enter (.qr ..)).changes
  | scanned device => exact noteDevice_changes m _ device

namespace Does

variable {α β : Type} {p : Operation Manager α} {k : α → Operation Manager β}

theorem done (a : α) : Does assumes admits (.done a) := Changes.refl

theorem bind (h : Does assumes admits p) (hNext : ∀ a, Does assumes admits (k a)) :
    Does assumes admits (p >>= k) := by
  intro m
  refine ensures_bind.mpr ((h m).mono ?_)
  intro a next hChanges
  exact (hNext a next).mono fun _ _ hLast => hChanges.trans hLast

section Runs

variable (hAdmitted : Admitted assumes admits)

include hAdmitted

theorem operation (command : Command) : Does assumes admits command.operation := by
  intro m
  exact ensures_operation fun _ _ hEnds => hEnds.changes hAdmitted

theorem perform (commands : List Command) : Does assumes admits (perform commands) := by
  induction commands with
  | nil => exact done ()
  | cons command rest ih => exact bind (operation hAdmitted command) fun _ => ih

end Runs

theorem changes {σ : Type} (h : Does (fun _ _ _ => True) admits p) (answer : Collaborators σ)
    (world : σ) : Changes admits m (p.run answer m world).state :=
  (h m).of_run (meets_of_forall fun _ _ _ => trivial)

end Does

theorem admitted_all : Admitted (fun _ _ _ => True) fun _ _ => True :=
  ⟨fun _ _ _ _ _ _ => trivial, fun _ _ _ _ _ => trivial⟩

end Manager

end DeviceTrust
