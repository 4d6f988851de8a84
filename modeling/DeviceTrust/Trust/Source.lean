import DeviceTrust.Store.KeyStore
import DeviceTrust.Trust.Level
import DeviceTrust.Trust.Summary
/-! # Levels from a store

Trust levels and summaries over any source of identities and devices. A lookup that fails ends the
computation with its error.
-/

namespace DeviceTrust

structure TrustSource where
  isVerified : UserId → Except StoreError Bool
  devices : UserId → Except StoreError (List Device)
  device : UserId → String → Except StoreError (Option Device)

namespace TrustSource

def userLevel (source : TrustSource) (user : UserId) : Except StoreError UserLevel :=
  (source.isVerified user).map .ofVerified

def deviceLevel (source : TrustSource) (user : UserId) (device : String) :
    Except StoreError (Option DeviceLevel) :=
  (source.device user device).map (·.map .ofDevice)

def countsAsTrusted (device : Device) : Bool := device.crossSigned || device.isLocallyTrusted

/-- The flags of users and of their devices, asking for each user's identity first. -/
def flags (source : TrustSource) : List UserId → Except StoreError (List Bool × List Bool)
  | [] => .ok ([], [])
  | user :: rest => do
    let verified ← source.isVerified user
    let devices ← source.devices user
    let (users, others) ← source.flags rest
    return (verified :: users, devices.map countsAsTrusted ++ others)

def summary (source : TrustSource) (users : List UserId) : Except StoreError PopulationSummary := do
  let (users, devices) ← source.flags users
  return ⟨.ofFlags users, .ofFlags devices⟩

end TrustSource

end DeviceTrust
