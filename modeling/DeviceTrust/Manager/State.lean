import DeviceTrust.History.Archive
import DeviceTrust.Manager.Feed
import DeviceTrust.Manager.Registry
import DeviceTrust.Version
import DeviceTrust.Verification.Flow
import DeviceTrust.Verification.Request
/-! # Manager state

The requests and flows of a client, the tables that track them by the text of their flow ids, and the
atomic changes of those tables. A request that is over moves to the table of finished requests, where
it is remembered; a flow that is over is only let go.
-/

namespace DeviceTrust

inductive Notice where
  | newRequest (request : Handle Request)
  | requestChanged (request : Handle Request)
  | requestRemoved (request : Handle Request)
  | newFlow (flow : Handle Flow)
  | flowChanged (flow : Handle Flow)
  | flowRemoved (flow : Handle Flow)
  deriving DecidableEq

structure Manager where
  settings : Settings
  requests : Registry Request := {}
  flows : Registry Flow := {}
  tracked : Std.TreeMap String (Handle Request) := ∅
  finished : Std.TreeMap String (Handle Request) := ∅
  running : Std.TreeMap String (Handle Flow) := ∅
  archive : Archive
  feed : Feed Notice := {}

namespace Manager

def new (ownUser : UserId) (settings : Settings) : Manager :=
  { settings, archive := .empty ownUser settings.sortsByTimestamp }

def ownUser (m : Manager) : UserId := m.archive.ownUser

def request? (m : Manager) (handle : Handle Request) : Option Request := m.requests.get? handle

def flow? (m : Manager) (handle : Handle Flow) : Option Flow := m.flows.get? handle

def pendingRequests (m : Manager) : List (Handle Request) := m.tracked.values

def runningFlows (m : Manager) : List (Handle Flow) := m.running.values

def announce (m : Manager) (notice : Notice) : Manager := { m with feed := m.feed.announce notice }

def tracked? (m : Manager) (flow : String) : Option (Handle Request × Request) := do
  let handle ← m.tracked[flow]?
  let request ← m.request? handle
  return (handle, request)

def running? (m : Manager) (flow : String) : Option (Handle Flow × Flow) := do
  let handle ← m.running[flow]?
  let value ← m.flow? handle
  return (handle, value)

def runningQr? (m : Manager) (flow : String) : Option (Handle Flow) :=
  match m.running? flow with
  | some (handle, .qr _) => some handle
  | _ => none

/-- Enter a flow without tracking it. -/
def enterFlow (m : Manager) (flow : Flow) : Handle Flow × Manager :=
  ((m.flows.add flow).1, { m with flows := (m.flows.add flow).2 })

/-- Enter a flow and track it in place of any other with its id. -/
def addFlow (m : Manager) (flow : Flow) (isNew : Bool) : Handle Flow × Manager :=
  let (handle, m) := m.enterFlow flow
  let m := { m with running := m.running.insert flow.id.text handle }
  (handle, if isNew then m.announce (.newFlow handle) else m)

/-- Enter a request: one that is over is remembered as finished, any other is tracked. -/
def addRequest (m : Manager) (info : RequestInfo) (isNew : Bool) : Handle Request × Manager :=
  let request := Request.ofInfo m.ownUser m.settings.supportedMethods info
  let (handle, requests) := m.requests.add request
  let m := { m with requests }
  if request.state.isTerminal then
    (handle, { m with finished := m.finished.insert request.flow.text handle })
  else
    let m := { m with tracked := m.tracked.insert request.flow.text handle }
    (handle, if isNew then m.announce (.newRequest handle) else m)

/-- What an update of a tracked object came to. -/
inductive Applied (α : Type) where
  /-- Nothing of that kind is tracked under the flow id. -/
  | unknown
  | live
  | over (handle : Handle α) (value : α)

def applyRequest (m : Manager) (flow : String) (update : RequestUpdate) :
    Applied Request × Manager :=
  match m.tracked? flow with
  | none => (.unknown, m)
  | some (handle, request) =>
    let (next, changed) := request.apply update
    let m := { m with requests := m.requests.set handle next changed }
    if changed then
      (if next.state.isTerminal then .over handle next else .live, m.announce (.requestChanged handle))
    else (.live, m)

def applyFlow (m : Manager) (flow : String) (step : Flow → Option (Flow × Bool)) :
    Applied Flow × Manager :=
  match m.running? flow with
  | none => (.unknown, m)
  | some (handle, value) =>
    match step value with
    | none => (.unknown, m)
    | some (next, changed) =>
      let m := { m with flows := m.flows.set handle next changed }
      if changed then
        (if next.isTerminal then .over handle next else .live, m.announce (.flowChanged handle))
      else (.live, m)

def sasStep (update : SasUpdate) : Flow → Option (Flow × Bool)
  | .sas sas => some (.sas (sas.apply update).1, (sas.apply update).2)
  | .qr _ => none

def qrStep (update : QrUpdate) : Flow → Option (Flow × Bool)
  | .sas _ => none
  | .qr qr => some (.qr (qr.apply update).1, (qr.apply update).2)

def untrack (m : Manager) (flow : String) : Manager := { m with tracked := m.tracked.erase flow }

def finish (m : Manager) (flow : String) (handle : Handle Request) : Manager :=
  { m with finished := m.finished.insert flow handle }.announce (.requestRemoved handle)

def release (m : Manager) (handle : Handle Flow) (flow : Flow) : Manager :=
  { m with running := m.running.erase flow.id.text }.announce (.flowRemoved handle)

def dropQr (m : Manager) (flow : String) : Manager :=
  match m.runningQr? flow with
  | some _ => { m with running := m.running.erase flow }
  | none => m

def noteDevice (m : Manager) (handle : Handle Flow) (device : String) : Manager :=
  match m.flow? handle with
  | some (.qr qr) =>
    { m with flows := m.flows.set handle (.qr { qr with otherDevice := some device }) false }
  | _ => m

end Manager

end DeviceTrust
