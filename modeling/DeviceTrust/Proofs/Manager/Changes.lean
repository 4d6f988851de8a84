import DeviceTrust.Manager.State
import Mathlib.Logic.Relation
/-! # Changes of a manager

All that an operation can do to a manager: requests and flows are entered, moved by reports and let go,
and outcomes are archived. A report is one change together with the move to another table that it
brings about. Which requests are entered depends on what the engine may answer.
-/

namespace DeviceTrust

inductive Flow.Begun : Flow → Prop
  | sas (info : FlowInfo) : Begun (.sas (.new info))
  | qr (flow : FlowId) (otherUser : UserId) (weStarted : Bool) (otherDevice : Option String) :
    Begun (.qr (.start flow otherUser weStarted otherDevice))

/-- What a report makes of a flow, and whether its state changed by that. -/
inductive Flow.Reported : Flow → Flow → Bool → Prop
  | sas (sas : Sas) (update : SasUpdate) :
    Reported (.sas sas) (.sas (sas.apply update).1) (sas.apply update).2
  | qr (qr : QrCode) (update : QrUpdate) :
    Reported (.qr qr) (.qr (qr.apply update).1) (qr.apply update).2

namespace Manager

def requestOf (m : Manager) (info : RequestInfo) : Request :=
  .ofInfo m.ownUser m.settings.supportedMethods info

/-- One change, with all that holds of the manager before it. -/
inductive Change (admits : Manager → RequestInfo → Prop) (m : Manager) : Manager → Prop
  | remember (info : RequestInfo) (hAdmits : admits m info)
    (hOver : (m.requestOf info).state.isTerminal = true) :
    Change admits m { m with
      requests := (m.requests.add (m.requestOf info)).2
      finished := m.finished.insert info.flow.text (m.requests.add (m.requestOf info)).1 }
  | track (info : RequestInfo) (isNew : Bool) (hAdmits : admits m info)
    (hLive : (m.requestOf info).state.isTerminal = false) :
    Change admits m { m with
      requests := (m.requests.add (m.requestOf info)).2
      tracked := m.tracked.insert info.flow.text (m.requests.add (m.requestOf info)).1
      feed :=
        if isNew then m.feed.announce (.newRequest (m.requests.add (m.requestOf info)).1)
        else m.feed }
  | report {flow : String} {handle : Handle Request} {request next : Request} {changed : Bool}
    {update : RequestUpdate} (hTracked : m.tracked? flow = some (handle, request))
    (hReported : request.apply update = (next, changed))
    (hLive : changed = true → next.state.isTerminal = false) :
    Change admits m { m with
      requests := m.requests.set handle next changed
      feed := if changed then m.feed.announce (.requestChanged handle) else m.feed }
  | finish {flow : String} {handle : Handle Request} {request next : Request}
    {update : RequestUpdate} (hTracked : m.tracked? flow = some (handle, request))
    (hReported : request.apply update = (next, true)) (hOver : next.state.isTerminal = true) :
    Change admits m { m with
      requests := m.requests.set handle next true
      tracked := m.tracked.erase flow
      finished := m.finished.insert flow handle
      feed := (m.feed.announce (.requestChanged handle)).announce (.requestRemoved handle) }
  /-- A flow is started that is not tracked. -/
  | enter {value : Flow} (hBegun : value.Begun) :
    Change admits m { m with flows := (m.flows.add value).2 }
  | run {value : Flow} (isNew : Bool) (hBegun : value.Begun) :
    Change admits m { m with
      flows := (m.flows.add value).2
      running := m.running.insert value.id.text (m.flows.add value).1
      feed := if isNew then m.feed.announce (.newFlow (m.flows.add value).1) else m.feed }
  | advance {flow : String} {handle : Handle Flow} {value next : Flow} {changed : Bool}
    (hRunning : m.running? flow = some (handle, value)) (hReported : value.Reported next changed)
    (hLive : changed = true → next.isTerminal = false) :
    Change admits m { m with
      flows := m.flows.set handle next changed
      feed := if changed then m.feed.announce (.flowChanged handle) else m.feed }
  | release {flow : String} {handle : Handle Flow} {value next : Flow}
    (hRunning : m.running? flow = some (handle, value)) (hReported : value.Reported next true)
    (hOver : next.isTerminal = true) :
    Change admits m { m with
      flows := m.flows.set handle next true
      running := m.running.erase next.id.text
      feed := (m.feed.announce (.flowChanged handle)).announce (.flowRemoved handle) }
  | dropQr {flow : String} {handle : Handle Flow} {qr : QrCode}
    (hRunning : m.running? flow = some (handle, .qr qr)) :
    Change admits m { m with running := m.running.erase flow }
  | noteDevice {handle : Handle Flow} {qr : QrCode} (device : String)
    (hFlow : m.flow? handle = some (.qr qr)) :
    Change admits m { m with
      flows := m.flows.set handle (.qr { qr with otherDevice := some device }) false }
  | settle (event : EventId) (answer : Except TransportError (List HistoryEvent)) :
    Change admits m { m with archive := (m.archive.settle event answer).2 }

def Changes (admits : Manager → RequestInfo → Prop) : Manager → Manager → Prop :=
  Relation.ReflTransGen (Change admits)

variable {admits : Manager → RequestInfo → Prop} {m next : Manager} {info : RequestInfo}
  {flow : String} {handle : Handle Request} {flowHandle : Handle Flow} {request : Request} {value : Flow}

theorem Changes.refl (m : Manager) : Changes admits m m := Relation.ReflTransGen.refl

theorem Change.changes (h : Change admits m next) : Changes admits m next :=
  Relation.ReflTransGen.single h

/-! ## The atomic accesses of operations -/

theorem lookup_eq_some_iff {α β : Type} {found : Option α} {get? : α → Option β} {a : α} {b : β} :
    (do let a ← found; let b ← get? a; return (a, b)) = some (a, b) ↔
      found = some a ∧ get? a = some b := by
  simp only [Option.bind_eq_bind, Option.bind_eq_some_iff, Option.pure_def, Option.some.injEq,
    Prod.mk.injEq]
  constructor
  · rintro ⟨_, hFound, _, hGet, rfl, rfl⟩
    exact ⟨hFound, hGet⟩
  · rintro ⟨hFound, hGet⟩
    exact ⟨a, hFound, b, hGet, rfl, rfl⟩

theorem tracked?_eq_some_iff :
    m.tracked? flow = some (handle, request) ↔
      m.tracked[flow]? = some handle ∧ m.request? handle = some request := lookup_eq_some_iff

theorem running?_eq_some_iff :
    m.running? flow = some (flowHandle, value) ↔
      m.running[flow]? = some flowHandle ∧ m.flow? flowHandle = some value := lookup_eq_some_iff

/-- How a request is entered: one that is over is remembered, any other is tracked. -/
inductive RequestEntered (m : Manager) (info : RequestInfo) (isNew : Bool) :
    Handle Request × Manager → Prop
  | remembered (hOver : (m.requestOf info).state.isTerminal = true) :
    RequestEntered m info isNew ((m.requests.add (m.requestOf info)).1, { m with
      requests := (m.requests.add (m.requestOf info)).2
      finished := m.finished.insert info.flow.text (m.requests.add (m.requestOf info)).1 })
  | tracked (hLive : (m.requestOf info).state.isTerminal = false) :
    RequestEntered m info isNew ((m.requests.add (m.requestOf info)).1, { m with
      requests := (m.requests.add (m.requestOf info)).2
      tracked := m.tracked.insert info.flow.text (m.requests.add (m.requestOf info)).1
      feed :=
        if isNew then m.feed.announce (.newRequest (m.requests.add (m.requestOf info)).1)
        else m.feed })

theorem addRequest_entered (m : Manager) (info : RequestInfo) (isNew : Bool) :
    RequestEntered m info isNew (m.addRequest info isNew) := by
  cases hOver : (m.requestOf info).state.isTerminal with
  | true =>
    have hAdd : m.addRequest info isNew = (_, _) := if_pos hOver
    rw [hAdd]
    exact .remembered hOver
  | false =>
    have hAdd : m.addRequest info isNew = (_, _) := if_neg (Bool.eq_false_iff.mp hOver)
    rw [hAdd]
    cases isNew <;> exact .tracked hOver

theorem addRequest_changes (hAdmits : admits m info) (isNew : Bool) :
    Changes admits m (m.addRequest info isNew).2 := by
  have hEntered := m.addRequest_entered info isNew
  generalize m.addRequest info isNew = entered at hEntered ⊢
  cases hEntered with
  | remembered hOver => exact (Change.remember info hAdmits hOver).changes
  | tracked hLive => exact (Change.track info isNew hAdmits hLive).changes

theorem addFlow_changes (hBegun : value.Begun) (isNew : Bool) :
    Changes admits m (m.addFlow value isNew).2 := by
  cases isNew with
  | true => exact (Change.run true hBegun).changes
  | false => exact (Change.run false hBegun).changes

theorem dropQr_changes (m : Manager) (flow : String) : Changes admits m (m.dropQr flow) := by
  rw [dropQr, runningQr?]
  split
  · next hDropped =>
    split at hDropped
    · next hRunning => exact (Change.dropQr hRunning).changes
    · cases hDropped
  · exact .refl m

theorem noteDevice_changes (m : Manager) (handle : Handle Flow) (device : String) :
    Changes admits m (m.noteDevice handle device) := by
  rw [noteDevice]
  split
  · next hFlow => exact (Change.noteDevice device hFlow).changes
  · exact .refl m

end Manager

end DeviceTrust
