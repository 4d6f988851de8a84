import DeviceTrust.Verification.Delivery
/-! # QR code flows

A flow in which one side shows a code and the other scans it. The device of the other side may become
known only by the scan.
-/

namespace DeviceTrust

inductive QrState where
  /-- No report arrived yet, or it is our part to scan. -/
  | unknown
  /-- Our code is shown and waits to be scanned. -/
  | waitingOtherConfirm
  /-- Our code was scanned, which the user has to confirm. -/
  | scannedByOther
  | verified
  | cancelled
  | cancelledByUs
  deriving DecidableEq

namespace QrState

def all : List QrState :=
  [unknown, waitingOtherConfirm, scannedByOther, verified, cancelled, cancelledByUs]

def name : QrState → String
  | unknown => "Unknown"
  | waitingOtherConfirm => "WaitingOtherConfirm"
  | scannedByOther => "QrScannedByOther"
  | verified => "Verified"
  | cancelled => "Cancelled"
  | cancelledByUs => "CancelledByMe"

def isTerminal : QrState → Bool
  | verified | cancelled | cancelledByUs => true
  | _ => false

def ofCancel (info : CancelInfo) : QrState := if info.byUs then cancelledByUs else cancelled

end QrState

inductive QrUpdate where
  | started
  | scanned
  /-- We scanned the code of the other side and said so. -/
  | reciprocated
  | done
  | cancelled (info : CancelInfo)
  deriving DecidableEq

structure QrCode where
  flow : FlowId
  otherUser : UserId
  weStarted : Bool
  otherDevice : Option String
  cancelInfo : Option CancelInfo
  state : QrState
  deriving DecidableEq

namespace QrCode

/-- The side that starts a flow shows its code. -/
def start (flow : FlowId) (otherUser : UserId) (weStarted : Bool) (otherDevice : Option String) :
    QrCode :=
  ⟨flow, otherUser, weStarted, otherDevice, none,
    if weStarted then .waitingOtherConfirm else .unknown⟩

def new (info : FlowInfo) : QrCode :=
  start info.flow info.otherUser info.weStarted (some info.otherDevice)

def isDone (qr : QrCode) : Bool := qr.state == .verified

def isCancelled (qr : QrCode) : Bool := qr.state == .cancelled || qr.state == .cancelledByUs

def target (qr : QrCode) : QrUpdate → QrState
  | .started | .reciprocated => if qr.weStarted then .waitingOtherConfirm else qr.state
  | .scanned => .scannedByOther
  | .done => .verified
  | .cancelled info => .ofCancel info

def note (qr : QrCode) : QrUpdate → QrCode
  | .cancelled info => { qr with cancelInfo := some info }
  | _ => qr

def apply (qr : QrCode) (update : QrUpdate) : QrCode × Bool :=
  if qr.state.isTerminal then (qr, false)
  else ({ qr.note update with state := qr.target update }, qr.target update != qr.state)

variable {S : Type}

def data (qr : QrCode) : Operation S (Option (List UInt8)) :=
  Operation.call (.generateQr qr.otherUser qr.flow.text)

/-- Scan the code of the other side. Yields the device it belongs to, once the engine took the code and
our answer was sent. -/
def scan (qr : QrCode) (data : List UInt8) : Operation S (Option String) := do
  match ← Operation.call (.scanQr qr.otherUser qr.flow.text data) with
  | none => return none
  | some started =>
    match ← Operation.call (.send started.message) with
    | .ok () => return some started.info.otherDevice
    | .error _ => return none

def cancel (qr : QrCode) (code : CancelCode) : Operation S (Except VerificationError Unit) :=
  if qr.state.isTerminal then return .error .cannotCancel
  else cancelFlow qr.otherUser qr.flow.text code

/-- Tell whether the other side scanned our code. If not, the keys did not match. -/
def scannedByOther (qr : QrCode) (scanned : Bool) : Operation S Unit := do
  if scanned then
    let _ ← confirmAndDeliver qr.otherUser qr.flow.text
    return ()
  else
    let _ ← qr.cancel .keyMismatch
    return ()

end QrCode

end DeviceTrust
