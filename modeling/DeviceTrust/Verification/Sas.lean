import DeviceTrust.Verification.Delivery
import DeviceTrust.Verification.Emoji
/-! # Short auth string flows

A flow in which both users compare emoji or decimals. The engine's progress reports move it; what the
user decides only asks the engine for messages. A flow that is verified or cancelled never moves again.
-/

namespace DeviceTrust

inductive SasState where
  | unknown
  /-- The other side started the flow, and we have to accept it. -/
  | incomingShowAccept
  | waitForPartnerToAccept
  | waitForPartnerKey
  | showSas
  /-- We confirmed the match, the other side did not yet. -/
  | waitForPartnerToConfirm
  | verified
  | cancelled
  | cancelledByUs
  deriving DecidableEq

namespace SasState

def all : List SasState :=
  [unknown, incomingShowAccept, waitForPartnerToAccept, waitForPartnerKey, showSas,
    waitForPartnerToConfirm, verified, cancelled, cancelledByUs]

def name : SasState → String
  | unknown => "Unknown"
  | incomingShowAccept => "IncomingShowAccept"
  | waitForPartnerToAccept => "OutgoingWaitForPartnerToAccept"
  | waitForPartnerKey => "WaitForPartnerKey"
  | showSas => "ShowSas"
  | waitForPartnerToConfirm => "WaitForPartnerToConfirm"
  | verified => "Verified"
  | cancelled => "Cancelled"
  | cancelledByUs => "CancelledByMe"

def isTerminal : SasState → Bool
  | verified | cancelled | cancelledByUs => true
  | _ => false

def ofCancel (info : CancelInfo) : SasState := if info.byUs then cancelledByUs else cancelled

end SasState

inductive SasUpdate where
  | created
  | started
  | accepted
  | keysExchanged (emoji : List Nat) (decimals : List Nat)
  | confirmed
  | done
  | cancelled (info : CancelInfo)
  deriving DecidableEq

namespace SasUpdate

def target : SasUpdate → SasState
  | created => .waitForPartnerToAccept
  | started => .incomingShowAccept
  | accepted => .waitForPartnerKey
  | keysExchanged .. => .showSas
  | confirmed => .waitForPartnerToConfirm
  | done => .verified
  | cancelled info => .ofCancel info

end SasUpdate

structure Sas where
  info : FlowInfo
  emoji : Option (List Emoji)
  decimals : Option String
  cancelInfo : Option CancelInfo
  state : SasState
  deriving DecidableEq

namespace Sas

def new (info : FlowInfo) : Sas := ⟨info, none, none, none, .unknown⟩

def isIncoming (sas : Sas) : Bool := !sas.info.weStarted

def isDone (sas : Sas) : Bool := sas.state == .verified

def isCancelled (sas : Sas) : Bool := sas.state == .cancelled || sas.state == .cancelledByUs

/-- An update is taken unless the flow is over, or is told to have been started by the other side when
we started it. -/
def takes (sas : Sas) (update : SasUpdate) : Bool :=
  !sas.state.isTerminal && !(update == .started && sas.info.weStarted)

def note (sas : Sas) : SasUpdate → Sas
  | .keysExchanged emoji decimals =>
    { sas with emoji := some (Emoji.ofIndices emoji), decimals := some (decimalText decimals) }
  | .cancelled info => { sas with cancelInfo := some info }
  | _ => sas

def apply (sas : Sas) (update : SasUpdate) : Sas × Bool :=
  if sas.takes update then
    ({ sas.note update with state := update.target }, update.target != sas.state)
  else (sas, false)

variable {S : Type}

/-- Accept an incoming flow. A failure shows only in the state not moving on. -/
def accept (sas : Sas) : Operation S Unit := do
  match ← Operation.call (.acceptSas sas.info.otherUser sas.info.flow.text) with
  | none => return ()
  | some message =>
    let _ ← Operation.call (.send message)
    return ()

def confirm (sas : Sas) : Operation S (Option Confirmation) :=
  confirmAndDeliver sas.info.otherUser sas.info.flow.text

def cancel (sas : Sas) (code : CancelCode) : Operation S (Except VerificationError Unit) :=
  if sas.state.isTerminal then return .error .cannotCancel
  else cancelFlow sas.info.otherUser sas.info.flow.text code

end Sas

end DeviceTrust
