import DeviceTrust.Verification.QrCode
import DeviceTrust.Verification.Sas
/-! # Flows

A started flow of either kind, with what both kinds have in common.
-/

namespace DeviceTrust

inductive Flow where
  | sas (sas : Sas)
  | qr (qr : QrCode)
  deriving DecidableEq

namespace Flow

def sas? : Flow → Option Sas
  | sas s => some s
  | qr _ => none

def qr? : Flow → Option QrCode
  | sas _ => none
  | qr q => some q

def id : Flow → FlowId
  | sas s => s.info.flow
  | qr q => q.flow

def otherUser : Flow → UserId
  | sas s => s.info.otherUser
  | qr q => q.otherUser

def cancelInfo : Flow → Option CancelInfo
  | sas s => s.cancelInfo
  | qr q => q.cancelInfo

def stateName : Flow → String
  | sas s => s.state.name
  | qr q => q.state.name

def isDone : Flow → Bool
  | sas s => s.isDone
  | qr q => q.isDone

def isCancelled : Flow → Bool
  | sas s => s.isCancelled
  | qr q => q.isCancelled

def isTerminal (flow : Flow) : Bool := flow.isDone || flow.isCancelled

variable {S : Type}

def cancel (code : CancelCode) : Flow → Operation S (Except VerificationError Unit)
  | sas s => s.cancel code
  | qr q => q.cancel code

end Flow

end DeviceTrust
