import DeviceTrust.Json.Codec
/-! # Verification methods

The token of a way to verify, as both sides advertise it. Tokens that are not known here are kept.
-/

namespace DeviceTrust

structure Method where
  token : String
  deriving DecidableEq

namespace Method

def sas : Method := ⟨"m.sas.v1"⟩

def qrCodeShow : Method := ⟨"m.qr_code.show.v1"⟩

def reciprocate : Method := ⟨"m.reciprocate.v1"⟩

instance : Codec Method where
  encode method := .text method.token
  decode value := value.text?.map Method.mk

instance : Codec.Faithful Method := ⟨fun _ => rfl⟩

end Method

end DeviceTrust
