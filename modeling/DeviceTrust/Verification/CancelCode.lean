import DeviceTrust.Json.Codec
/-! # Cancel codes

Why a verification was cancelled: a token on the wire, and a reason for people. Each code of the
protocol has a constructor of its own; every other token is kept as it is.
-/

namespace DeviceTrust

inductive CancelCode where
  | user
  | timeout
  | unknownTransaction
  | unknownMethod
  | unexpectedMessage
  | keyMismatch
  | userMismatch
  | invalidMessage
  | accepted
  | mismatchedCommitment
  | mismatchedSas
  | other (token : String)
  deriving DecidableEq

namespace CancelCode

def token : CancelCode → String
  | user => "m.user"
  | timeout => "m.timeout"
  | unknownTransaction => "m.unknown_transaction"
  | unknownMethod => "m.unknown_method"
  | unexpectedMessage => "m.unexpected_message"
  | keyMismatch => "m.key_mismatch"
  | userMismatch => "m.user_mismatch"
  | invalidMessage => "m.invalid_message"
  | accepted => "m.accepted"
  | mismatchedCommitment => "m.mismatched_commitment"
  | mismatchedSas => "m.mismatched_sas"
  | other token => token

def ofToken : String → CancelCode
  | "m.user" => user
  | "m.timeout" => timeout
  | "m.unknown_transaction" => unknownTransaction
  | "m.unknown_method" => unknownMethod
  | "m.unexpected_message" => unexpectedMessage
  | "m.key_mismatch" => keyMismatch
  | "m.user_mismatch" => userMismatch
  | "m.invalid_message" => invalidMessage
  | "m.accepted" => accepted
  | "m.mismatched_commitment" => mismatchedCommitment
  | "m.mismatched_sas" => mismatchedSas
  | token => other token

theorem token_ofToken (token : String) : (ofToken token).token = token := by
  unfold ofToken
  split <;> rfl

theorem ofToken_token {code : CancelCode} (h : ∀ kept, code ≠ other kept) :
    ofToken code.token = code := by
  cases code with
  | other kept => exact absurd rfl (h kept)
  | _ => rfl

theorem ofToken_eq_iff {code : CancelCode} (h : ∀ kept, code ≠ other kept) {token : String} :
    ofToken token = code ↔ token = code.token := by
  constructor
  · rintro rfl
    exact (token_ofToken token).symm
  · rintro rfl
    exact ofToken_token h

def defaultReason : CancelCode → String
  | user => "The user cancelled the verification."
  | timeout => "The verification process timed out."
  | unknownTransaction => "The device does not know about the given transaction ID."
  | unknownMethod => "The device does not know how to handle the requested method."
  | unexpectedMessage => "The device received an unexpected message."
  | keyMismatch => "The expected key did not match the verified one"
  | userMismatch => "The expected user did not match the verified user"
  | invalidMessage => "The received message was invalid."
  | accepted => "A m.key.verification.request was accepted by a different device."
  | mismatchedCommitment => "The hash commitment did not match."
  | mismatchedSas => "The short authentication strings did not match."
  | other _ => "Unknown cancel reason"

instance : Codec CancelCode where
  encode code := .text code.token
  decode value := value.text?.map ofToken

instance : ToString CancelCode := ⟨token⟩

end CancelCode

/-- Another type of cancel codes, that of typed events: a code is made from a token and gives one back. -/
structure EventCodes where
  Code : Type
  ofToken : String → Code
  token : Code → String

namespace CancelCode

variable (codes : EventCodes)

def toEventCode (code : CancelCode) : codes.Code := codes.ofToken code.token

def ofEventCode (code : codes.Code) : CancelCode := ofToken (codes.token code)

end CancelCode

structure CancelInfo where
  code : CancelCode
  reason : String
  byUs : Bool
  deriving DecidableEq

def CancelInfo.ofCode (code : CancelCode) (byUs : Bool) : CancelInfo := ⟨code, code.defaultReason, byUs⟩

end DeviceTrust
