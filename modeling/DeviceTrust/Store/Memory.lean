import DeviceTrust.Store.KeyStore
import DeviceTrust.Trust.Source
import Std.Data.TreeMap
/-! # Memory store

Devices in the order of their owners and ids, the users with a verified identity, and the key requests
that were made. Requests are kept by id, beside an index from what they ask for to the id of the last
request that was saved for it.
-/

namespace DeviceTrust

/-- Where a device is kept. Keys are ordered by owner, then by device id. -/
structure DeviceKey where
  owner : UserId
  device : String
  deriving DecidableEq

namespace DeviceKey

instance : Ord DeviceKey := ⟨compareLex (compareOn owner) (compareOn device)⟩

instance : Std.TransOrd DeviceKey :=
  inferInstanceAs (Std.TransCmp (compareLex (compareOn owner) (compareOn device)))

theorem compare_eq_lex (a b : DeviceKey) :
    compare a b = (compare a.owner b.owner).then (compare a.device b.device) := rfl

instance : Std.LawfulEqOrd DeviceKey where
  eq_of_compare {a b} h := by
    rw [compare_eq_lex, Ordering.then_eq_eq] at h
    obtain ⟨ha, hb⟩ := h
    cases a; cases b
    simp_all [Std.LawfulEqCmp.compare_eq_iff_eq]

end DeviceKey

def Device.key (device : Device) : DeviceKey := ⟨device.owner, device.id⟩

structure MemoryStore where
  devices : Std.TreeMap DeviceKey Device := ∅
  verifiedUsers : Std.TreeMap UserId Unit := ∅
  requests : Std.TreeMap String KeyRequest := ∅
  /-- Request ids by the index text of the requested key. -/
  index : Std.TreeMap String String := ∅

namespace MemoryStore

def empty : MemoryStore := {}

def saveDevice (store : MemoryStore) (device : Device) : MemoryStore :=
  { store with devices := store.devices.insert device.key device }

def saveDevices (store : MemoryStore) (devices : List Device) : MemoryStore :=
  devices.foldl saveDevice store

def setVerified (store : MemoryStore) (user : UserId) (verified : Bool) : MemoryStore :=
  { store with
    verifiedUsers :=
      if verified then store.verifiedUsers.insert user () else store.verifiedUsers.erase user }

def saveRequest (store : MemoryStore) (request : KeyRequest) : MemoryStore :=
  { store with
    index := store.index.insert request.key.indexText request.id
    requests := store.requests.insert request.id request }

/-- Forget a request, and whatever is indexed under what it asked for. -/
def deleteRequest (store : MemoryStore) (id : String) : MemoryStore :=
  match store.requests[id]? with
  | none => store
  | some request =>
    { store with
      index := store.index.erase request.key.indexText
      requests := store.requests.erase id }

def request? (store : MemoryStore) (key : RequestedKey) : Option KeyRequest :=
  store.index[key.indexText]?.bind (store.requests[·]?)

def device? (store : MemoryStore) (user : UserId) (device : String) : Option Device :=
  store.devices[(⟨user, device⟩ : DeviceKey)]?

def userDevices (store : MemoryStore) (user : UserId) : List Device :=
  store.devices.toList.filterMap fun (key, device) => if key.owner = user then some device else none

/-- The first device with an identity key, in the order of owners and ids. -/
def deviceByKey? (store : MemoryStore) (identityKey : String) : Option Device :=
  store.devices.values.find? (·.hasIdentityKey identityKey)

def isVerified (store : MemoryStore) (user : UserId) : Bool := store.verifiedUsers.contains user

def keyStore (store : MemoryStore) : KeyStore where
  request key := .ok (store.request? key)
  deviceByKey identityKey := .ok (store.deviceByKey? identityKey)

def trustSource (store : MemoryStore) : TrustSource where
  isVerified user := .ok (store.isVerified user)
  devices user := .ok (store.userDevices user)
  device user device := .ok (store.device? user device)

end MemoryStore

end DeviceTrust
