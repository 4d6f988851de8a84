import DeviceTrust.Verification.QrCode
import DeviceTrust.Verification.Sas
/-! # Verification requests

Two sides agree on methods before a concrete flow starts. The engine's reports move a request from
pending to ready and to an end; an end is never left.
-/

namespace DeviceTrust

inductive RequestState where
  | pending
  | ready
  /-- The flow that was started from the request succeeded. -/
  | accepted
  | cancelled
  | cancelledByUs
  /-- It timed out before anybody answered. -/
  | expired
  deriving DecidableEq

namespace RequestState

def all : List RequestState := [pending, ready, accepted, cancelled, cancelledByUs, expired]

def name : RequestState → String
  | pending => "Pending"
  | ready => "Ready"
  | accepted => "Accepted"
  | cancelled => "Cancelled"
  | cancelledByUs => "CancelledByMe"
  | expired => "Expired"

def isTerminal : RequestState → Bool
  | pending | ready => false
  | _ => true

/-- Where a cancellation takes a request: one that times out while pending expires. -/
def ofCancel (info : CancelInfo) (current : RequestState) : RequestState :=
  if info.code = .timeout ∧ current = pending then expired
  else if info.byUs then cancelledByUs
  else cancelled

end RequestState

inductive RequestUpdate where
  | requested
  | ready (theirs ours : List Method) (device : Option String)
  | done
  | cancelled (info : CancelInfo)
  deriving DecidableEq

structure Request where
  flow : FlowId
  ownUser : UserId
  otherUser : UserId
  weStarted : Bool
  /-- The methods we accept with when none are named. -/
  defaultMethods : List Method
  otherDevice : Option String
  theirMethods : Option (List Method)
  ourMethods : Option (List Method)
  cancelInfo : Option CancelInfo
  state : RequestState
  deriving DecidableEq

namespace Request

/-- The state of what the engine knows, which may be over already. -/
def initialState (info : RequestInfo) : RequestState :=
  let negotiated :=
    if info.theirMethods.isSome && info.ourMethods.isSome then RequestState.ready else .pending
  if info.isDone then .accepted
  else match info.cancelInfo with
    | some cancel => .ofCancel cancel negotiated
    | none => negotiated

def ofInfo (ownUser : UserId) (defaultMethods : List Method) (info : RequestInfo) : Request :=
  { flow := info.flow
    ownUser := ownUser
    otherUser := info.otherUser
    weStarted := info.weStarted
    defaultMethods := defaultMethods
    otherDevice := info.otherDevice
    theirMethods := info.theirMethods
    ourMethods := info.ourMethods
    cancelInfo := info.cancelInfo
    state := initialState info }

def isSelfVerification (request : Request) : Bool := request.ownUser == request.otherUser

/-- The methods of the side that sent the request. -/
def methods (request : Request) : List Method :=
  ((if request.weStarted then request.ourMethods else request.theirMethods)).getD []

def isDone (request : Request) : Bool := request.state == .accepted

/-- An expired request does not count as cancelled. -/
def isCancelled (request : Request) : Bool :=
  request.state == .cancelled || request.state == .cancelledByUs

def target (request : Request) : RequestUpdate → RequestState
  | .requested => .pending
  | .ready .. => .ready
  | .done => .accepted
  | .cancelled info => .ofCancel info request.state

/-- Note the details that an update brings. A device that is known stays known. -/
def note (request : Request) : RequestUpdate → Request
  | .ready theirs ours device =>
    { request with
      theirMethods := some theirs
      ourMethods := some ours
      otherDevice := device <|> request.otherDevice }
  | .cancelled info => { request with cancelInfo := some info }
  | _ => request

def apply (request : Request) (update : RequestUpdate) : Request × Bool :=
  if request.state.isTerminal then (request, false)
  else
    ({ request.note update with state := request.target update },
      request.target update != request.state)

variable {S : Type}

/-- Accept a request with some methods. The state moves only when the engine reports it. -/
def acceptWith (request : Request) (methods : List Method) :
    Operation S (Except VerificationError Unit) := do
  if request.state.isTerminal then
    return .error .cannotAccept
  match ← Operation.call (.accept request.otherUser request.flow.text methods) with
  | none => return .error .cannotAccept
  | some message => deliver message

def accept (request : Request) : Operation S (Except VerificationError Unit) :=
  request.acceptWith request.defaultMethods

def cancel (request : Request) (code : CancelCode) : Operation S (Except VerificationError Unit) :=
  if request.state.isTerminal then return .error .cannotCancel
  else cancelFlow request.otherUser request.flow.text code

/-- Start a flow of short auth strings; there is none unless its start message was sent. -/
def startSas (request : Request) : Operation S (Except VerificationError Sas) := do
  match ← Operation.call (.startSas request.otherUser request.flow.text) with
  | none => return .error .cannotStartSas
  | some started =>
    match ← deliver started.message with
    | .ok () => return .ok (.new started.info)
    | .error error => return .error error

def startQr (request : Request) : Operation S (Except VerificationError QrCode) := do
  match ← Operation.call (.startQr request.otherUser request.flow.text) with
  | none => return .error .cannotStartQr
  | some info => return .ok (.new info)

/-- A flow that the engine knows nothing of, in which we can still scan the code of the other side. -/
def scanOnly (request : Request) : QrCode :=
  .start request.flow request.otherUser request.weStarted request.otherDevice

end Request

end DeviceTrust
