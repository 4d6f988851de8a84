import DeviceTrust.Crypto.Key
import DeviceTrust.Identifier.UserId
import DeviceTrust.Json.Record
import DeviceTrust.Trust.Local
/-! # Devices

A device of some user, with its identity key and the two flags that trust in it is made of.
-/

namespace DeviceTrust

structure Device where
  owner : UserId
  id : String
  identityKey : Option IdentityKey
  localTrust : LocalTrust
  /-- Signed by a verified cross-signing identity. -/
  crossSigned : Bool
  deriving DecidableEq

namespace Device

def new (owner : UserId) (id : String) (identityKey : Option IdentityKey) : Device :=
  ⟨owner, id, identityKey, .unset, false⟩

def hasIdentityKey (device : Device) (text : String) : Bool :=
  match device.identityKey with
  | some key => key.text == text
  | none => false

def IdentifiedBy (device : Device) (text : String) : Prop :=
  ∃ key, device.identityKey = some key ∧ key.text = text

theorem hasIdentityKey_iff {device : Device} {text : String} :
    device.hasIdentityKey text = true ↔ device.IdentifiedBy text := by
  rw [hasIdentityKey, IdentifiedBy]
  cases device.identityKey <;> simp

def isLocallyTrusted (device : Device) : Bool := device.localTrust == .verified

def isBlackListed (device : Device) : Bool := device.localTrust == .blackListed

def reader : Record.Reader Device := do
  let owner ← Record.field (.required "user_id")
  let id ← Record.field (.required "device_id")
  let identityKey ← Record.field (.optional "curve25519_key")
  let localTrust ← Record.field (.required "local_trust")
  let crossSigned ← Record.field (.required "cross_signing_trusted")
  return ⟨owner, id, identityKey, localTrust, crossSigned⟩

instance : Codec Device where
  encode device := .object
    [("user_id", Codec.encode device.owner),
     ("device_id", Codec.encode device.id),
     ("curve25519_key", Codec.encodeOption Codec.encode device.identityKey),
     ("local_trust", Codec.encode device.localTrust),
     ("cross_signing_trusted", Codec.encode device.crossSigned)]
  decode := Record.decode reader

end Device

end DeviceTrust
