import DeviceTrust.Manager.State
/-! # Manager operations

What a client asks of its manager. Every access of a table is one atomic step of an `Operation`, and
between two of them the steps of other operations may come in.
-/

namespace DeviceTrust

/-- What a flow id stands for: a request, or the outcome of an archived flow. -/
inductive KeyVerification where
  | request (handle : Handle Request)
  | archived (outcome : Outcome)
  deriving DecidableEq

namespace Manager

def knownRequest (flow : String) : Operation Manager (Option (Handle Request)) := do
  match ← Operation.read (·.tracked[flow]?) with
  | some handle => return some handle
  | none => Operation.read (·.finished[flow]?)

/-- Ask the engine for a new request, and track it once its message is sent. -/
def requestFrom (target : Target) (methods : Option (List Method)) :
    Operation Manager (Except VerificationError (Handle Request)) := do
  let supported ← Operation.read (·.settings.supportedMethods)
  match ← Operation.call (.request target (methods.getD supported)) with
  | .error error => return .error (.delivery error)
  | .ok none => return .error .cannotRequest
  | .ok (some new) =>
    match new.message with
    | none => return .ok (← Operation.atomically (·.addRequest new.info false))
    | some message =>
      match ← deliver message with
      | .error error => return .error error
      | .ok () => return .ok (← Operation.atomically (·.addRequest new.info false))

/-- Request a verification over to-device messages: of all our own devices, or of the first device that
is named for another user. -/
def requestToDevice (user : UserId) (devices : List String) (methods : Option (List Method)) :
    Operation Manager (Except VerificationError (Handle Request)) := do
  let own ← Operation.read Manager.ownUser
  if user = own then requestFrom .ownDevices methods
  else match devices with
    | device :: _ => requestFrom (.device user device) methods
    | [] => return .error .missingDevice

/-- Request a verification in a room where the request was already sent as an event. -/
def requestInRoom (user : UserId) (room : RoomId) (event : EventId)
    (methods : Option (List Method)) :
    Operation Manager (Except VerificationError (Handle Request)) :=
  requestFrom (.room user room event) methods

/-- Track a request that the other side sent. A known request is left as it is. -/
def incomingRequest (sender : UserId) (flow : String) :
    Operation Manager (Option (Handle Request)) := do
  match ← knownRequest flow with
  | some handle => return some handle
  | none =>
    match ← Operation.call (.findRequest sender flow) with
    | none => return none
    | some info => return some (← Operation.atomically (·.addRequest info true))

/-- Track a flow that the other side started. Short auth strings are accepted at once if they belong to
a tracked request and the settings say so; a QR code flow that runs already is kept. -/
def incomingFlow (sender : UserId) (flow : String) : Operation Manager (Option (Handle Flow)) := do
  match ← Operation.call (.findFlow sender flow) with
  | none => return none
  | some (.sas info) =>
    let handle ← Operation.atomically (·.addFlow (.sas (.new info)) true)
    if ← Operation.read fun m => m.settings.acceptsKnownSas && m.tracked.contains flow then
      (Sas.new info).accept
    return some handle
  | some (.qr info) =>
    match ← Operation.read (·.runningQr? flow) with
    | some handle => return some handle
    | none => return some (← Operation.atomically (·.addFlow (.qr (.new info)) false))

def beginSas (request : Request) : Operation Manager (Except VerificationError (Handle Flow)) := do
  match ← request.startSas with
  | .error error => return .error error
  | .ok sas => return .ok (← Operation.atomically (·.addFlow (.sas sas) false))

/-- The QR code flow of a tracked request. Where the engine cannot start one, we may still scan the code
of the other side. -/
def qrFlow (flow : String) : Operation Manager (Option (Handle Flow)) := do
  match ← Operation.read (·.runningQr? flow) with
  | some handle => return some handle
  | none =>
    match ← Operation.read (·.tracked? flow) with
    | none => return none
    | some (_, request) =>
      match ← request.startQr with
      | .ok qr => return some (← Operation.atomically (·.addFlow (.qr qr) false))
      | .error _ => return some (← Operation.atomically (·.addFlow (.qr request.scanOnly) false))

def removeQr (flow : String) : Operation Manager Unit :=
  Operation.atomically fun m => ((), m.dropQr flow)

def resolve (event : EventId) (room : RoomId) :
    Operation Manager (Except ResolutionError Outcome) := do
  match ← Operation.read (·.archive.outcome? event) with
  | some outcome => return .ok outcome
  | none =>
    let answer ← Operation.call (.history room event)
    Operation.atomically fun m =>
      ((m.archive.settle event answer).1, { m with archive := (m.archive.settle event answer).2 })

/-- Look up the flow that an event started: a known request, a request that the engine still knows, or
an archived flow. -/
def keyVerification (sender : UserId) (event : EventId) (room : RoomId) :
    Operation Manager (Except ResolutionError KeyVerification) := do
  match ← knownRequest event.text with
  | some handle => return .ok (.request handle)
  | none =>
    match ← Operation.call (.findRequest sender event.text) with
    | some info => return .ok (.request (← Operation.atomically (·.addRequest info false)))
    | none => return (← resolve event room).map .archived

def requestUpdated (flow : String) (update : RequestUpdate) :
    Operation Manager (Except VerificationError Unit) := do
  match ← Operation.atomically (·.applyRequest flow update) with
  | .unknown => return .error (.unknownFlow flow)
  | .live => return .ok ()
  | .over handle _ =>
    Operation.atomically fun m => ((), m.untrack flow)
    Operation.atomically fun m => ((), m.finish flow handle)
    return .ok ()

/-- Take a report on a running flow of the right kind. -/
def flowUpdated (flow : String) (step : Flow → Option (Flow × Bool)) :
    Operation Manager (Except VerificationError Unit) := do
  match ← Operation.atomically (·.applyFlow flow step) with
  | .unknown => return .error (.unknownFlow flow)
  | .live => return .ok ()
  | .over handle value =>
    Operation.atomically fun m => ((), m.release handle value)
    return .ok ()

def sasUpdated (flow : String) (update : SasUpdate) :
    Operation Manager (Except VerificationError Unit) :=
  flowUpdated flow (sasStep update)

def qrUpdated (flow : String) (update : QrUpdate) :
    Operation Manager (Except VerificationError Unit) :=
  flowUpdated flow (qrStep update)

/-- Start short auth strings from a request without tracking them. -/
def startSas (request : Request) : Operation Manager (Except VerificationError (Handle Flow)) := do
  match ← request.startSas with
  | .error error => return .error error
  | .ok sas => return .ok (← Operation.atomically (·.enterFlow (.sas sas)))

/-- Start a QR code flow from a request without tracking it. -/
def startQr (request : Request) : Operation Manager (Except VerificationError (Handle Flow)) := do
  match ← request.startQr with
  | .error error => return .error error
  | .ok qr => return .ok (← Operation.atomically (·.enterFlow (.qr qr)))

def scan (handle : Handle Flow) (qr : QrCode) (data : List UInt8) : Operation Manager Unit := do
  match ← qr.scan data with
  | none => return ()
  | some device => Operation.atomically fun m => ((), m.noteDevice handle device)

end Manager

end DeviceTrust
