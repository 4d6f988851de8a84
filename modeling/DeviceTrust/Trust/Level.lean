import DeviceTrust.Trust.Device
/-! # Trust levels

The trust in a single device, which is local or through cross-signing, and in a single user, whose
identity carries one flag.
-/

namespace DeviceTrust

structure DeviceLevel where
  status : LocalStatus
  crossSigned : Bool
  deriving DecidableEq

namespace DeviceLevel

def ofDevice (device : Device) : DeviceLevel := ⟨.ofTrust device.localTrust, device.crossSigned⟩

def isLocallyVerified (level : DeviceLevel) : Bool := level.status == .verified

def isBlocked (level : DeviceLevel) : Bool := level.status == .blocked

def isVerified (level : DeviceLevel) : Bool := level.isLocallyVerified || level.crossSigned

def reader : Record.Reader DeviceLevel := do
  let status ← Record.field (.required "local_verification_status")
  let crossSigned ← Record.field (.required "cross_signing_verified")
  return ⟨status, crossSigned⟩

instance : Codec DeviceLevel where
  encode level := .object
    [("local_verification_status", Codec.encode level.status),
     ("cross_signing_verified", Codec.encode level.crossSigned)]
  decode := Record.decode reader

end DeviceLevel

structure UserLevel where
  crossSigned : Bool
  locallyVerified : Bool
  deriving DecidableEq

namespace UserLevel

def ofVerified (verified : Bool) : UserLevel := ⟨verified, verified⟩

def isVerified (level : UserLevel) : Bool := level.crossSigned && level.locallyVerified

@[simp] theorem isVerified_ofVerified (verified : Bool) :
    (ofVerified verified).isVerified = verified := by
  cases verified <;> rfl

def reader : Record.Reader UserLevel := do
  let crossSigned ← Record.field (.required "cross_signing_verified")
  let locallyVerified ← Record.field (.required "locally_verified")
  return ⟨crossSigned, locallyVerified⟩

instance : Codec UserLevel where
  encode level := .object
    [("cross_signing_verified", Codec.encode level.crossSigned),
     ("locally_verified", Codec.encode level.locallyVerified)]
  decode := Record.decode reader

end UserLevel

end DeviceTrust
