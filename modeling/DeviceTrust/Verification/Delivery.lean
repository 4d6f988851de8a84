import DeviceTrust.Verification.Operation
/-! # Delivery

How messages and confirmations are handed back to the engine. A confirmation sends its messages in
order and uploads its signatures last; the first failure ends it.
-/

namespace DeviceTrust

variable {S : Type}

def deliver (message : Message) : Operation S (Except VerificationError Unit) := do
  match ← Operation.call (.send message) with
  | .ok () => return .ok ()
  | .error error => return .error (.delivery error)

def sendAll : List Message → Operation S (Except EngineError Unit)
  | [] => return .ok ()
  | message :: rest => do
    match ← Operation.call (.send message) with
    | .ok () => sendAll rest
    | .error error => return .error error

def Confirmation.deliver (confirmation : Confirmation) : Operation S (Except EngineError Unit) := do
  match ← sendAll confirmation.messages with
  | .error error => return .error error
  | .ok () =>
    match confirmation.signatures with
    | none => return .ok ()
    | some signatures => Operation.call (.upload signatures)

/-- Let the engine confirm a flow and deliver what it gives. The confirmation is yielded if all of it
was delivered. -/
def confirmAndDeliver (user : UserId) (flow : String) : Operation S (Option Confirmation) := do
  match ← Operation.call (.confirm user flow) with
  | .error _ => return none
  | .ok none => return none
  | .ok (some confirmation) =>
    match ← confirmation.deliver with
    | .ok () => return some confirmation
    | .error _ => return none

def cancelFlow (user : UserId) (flow : String) (code : CancelCode) :
    Operation S (Except VerificationError Unit) := do
  match ← Operation.call (.cancel user flow code) with
  | none => return .error .cannotCancel
  | some message => deliver message

end DeviceTrust
