/-! # Verification errors

The causes for which an operation on a verification fails, each with its wording. None of them changes
the state of a flow.
-/

namespace DeviceTrust

inductive EngineError where
  | send (detail : String)
  | other (detail : String)
  deriving DecidableEq

def EngineError.message : EngineError → String
  | send detail => "failed to send the outgoing verification request: " ++ detail
  | other detail => "the crypto engine failed: " ++ detail

inductive VerificationError where
  | cannotAccept
  | cannotCancel
  | cannotStartSas
  | cannotStartQr
  | cannotRequest
  /-- Another user is verified on one of their devices, and none was named. -/
  | missingDevice
  | unknownFlow (flow : String)
  /-- A message was made but not delivered. -/
  | delivery (error : EngineError)
  deriving DecidableEq

def VerificationError.message : VerificationError → String
  | cannotAccept => "the verification request can't be accepted"
  | cannotCancel => "the verification flow can't be cancelled"
  | cannotStartSas => "a SAS verification can't be started for this request"
  | cannotStartQr => "a QR code verification can't be started for this request"
  | cannotRequest => "a verification request can't be created"
  | missingDevice => "verifying another user over to-device messages requires a device id"
  | unknownFlow flow => "no verification flow with the flow id " ++ flow ++ " is known"
  | delivery error => error.message

structure TransportError where
  detail : String
  deriving DecidableEq

def TransportError.message (error : TransportError) : String :=
  "failed to fetch the related events: " ++ error.detail

inductive ResolutionError where
  | transport (error : TransportError)
  | concurrentFailed
  deriving DecidableEq

def ResolutionError.message : ResolutionError → String
  | transport error => error.message
  | concurrentFailed => "a concurrent resolution of the same verification flow failed"

end DeviceTrust
