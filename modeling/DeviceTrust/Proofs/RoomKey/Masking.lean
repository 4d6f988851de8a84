import DeviceTrust.Proofs.RoomKey.Classification
import DeviceTrust.Proofs.Samples
import DeviceTrust.Proofs.Store.Devices
import Mathlib.Logic.Basic
/-! # Devices that hide our own

A forwarded key that we asked for is safe if one of our own verified devices forwarded it. The forwarder
is searched by its identity key among the devices of all users, and the first that is found decides. So
a user who comes before us can publish a device with the identity key of ours, which is then not found.
Nothing else that others publish matters.
-/

namespace DeviceTrust.MemoryStore

def classifier (store : MemoryStore) (ownUser : UserId) : KeyClassifier := ⟨ownUser, store.keyStore⟩

/-- A user who comes before us has a device with the identity key. -/
def Masked (store : MemoryStore) (ownUser : UserId) (identityKey : String) : Prop :=
  ∃ device, store.Keeps device ∧ compare device.owner ownUser = .lt ∧
    device.IdentifiedBy identityKey

/-- The first of our own devices with the identity key is one that we verified. -/
def OwnVouches (store : MemoryStore) (ownUser : UserId) (identityKey : String) : Prop :=
  ∃ device, store.Keeps device ∧ device.owner = ownUser ∧ device.localTrust = .verified ∧
    device.IdentifiedBy identityKey ∧
    ∀ other, store.Keeps other → other.owner = ownUser → compare other.id device.id = .lt →
      ¬ other.IdentifiedBy identityKey

variable {store other : MemoryStore} {ownUser : UserId} {identityKey forwarder : String}
  {devices : List Device} {event : RoomKeyEvent} {content : ForwardedContent}

theorem vouchesFor_deviceByKey?_iff (h : store.Shelved) :
    (store.classifier ownUser).vouchesFor (store.deviceByKey? identityKey) ↔
      store.OwnVouches ownUser identityKey ∧ ¬ store.Masked ownUser identityKey := by
  rw [KeyClassifier.vouchesFor_iff]
  simp only [deviceByKey?_eq_some_iff h, DeviceKey.compare_eq_lt_iff]
  constructor
  · rintro ⟨device, ⟨hKept, hHas, hFirst⟩, rfl, hVerified⟩
    refine ⟨⟨device, hKept, rfl, hVerified, hHas, ?_⟩, ?_⟩
    · intro other hOther hOwner hLess
      exact hFirst other hOther (.inr ⟨hOwner, hLess⟩)
    · rintro ⟨other, hOther, hLess, hOtherHas⟩
      exact hFirst other hOther (.inl hLess) hOtherHas
  · rintro ⟨⟨device, hKept, rfl, hVerified, hHas, hFirst⟩, hMasked⟩
    refine ⟨device, ⟨hKept, hHas, ?_⟩, rfl, hVerified⟩
    rintro other hOther (hLess | ⟨hOwner, hLess⟩)
    · exact fun hOtherHas => hMasked ⟨other, hOther, hLess, hOtherHas⟩
    · exact hFirst other hOther hOwner hLess

theorem ownVouches_saveDevices_iff (h : ∀ device ∈ devices, device.owner ≠ ownUser) :
    (store.saveDevices devices).OwnVouches ownUser identityKey ↔
      store.OwnVouches ownUser identityKey := by
  have hKeeps {device : Device} (hOwner : device.owner = ownUser) :
      (store.saveDevices devices).Keeps device ↔ store.Keeps device := by
    rw [Keeps, Keeps, hOwner, device?_saveDevices_of_others h]
  constructor
  · rintro ⟨device, hKept, hOwner, hVerified, hHas, hFirst⟩
    refine ⟨device, (hKeeps hOwner).mp hKept, hOwner, hVerified, hHas, fun other hOther hOwn => ?_⟩
    exact hFirst other ((hKeeps hOwn).mpr hOther) hOwn
  · rintro ⟨device, hKept, hOwner, hVerified, hHas, hFirst⟩
    refine ⟨device, (hKeeps hOwner).mpr hKept, hOwner, hVerified, hHas, fun other hOther hOwn => ?_⟩
    exact hFirst other ((hKeeps hOwn).mp hOther) hOwn

/-! ## Two stores with the same requests -/

theorem roomKey?_of_unrequested (h : event.Forwards content forwarder)
    (hNone : store.request? content.requestedKey = none) :
    (store.classifier ownUser).roomKey? event =
      some ⟨.unrequested, .ofForwarded content forwarder⟩ := by
  refine (KeyClassifier.roomKey?_of_forwards h).mpr ⟨_, ?_, rfl⟩
  exact KeyClassifier.forwardedTrust_eq_ok_iff.mpr (.inl ⟨congrArg Except.ok hNone, rfl⟩)

theorem roomKey?_of_requested {request : KeyRequest} (h : event.Forwards content forwarder)
    (hRequest : store.request? content.requestedKey = some request) :
    (store.classifier ownUser).roomKey? event =
      some ⟨if (store.classifier ownUser).vouchesFor (store.deviceByKey? forwarder) then .safe
        else .unvouched, .ofForwarded content forwarder⟩ := by
  refine (KeyClassifier.roomKey?_of_forwards h).mpr ⟨_, ?_, rfl⟩
  exact KeyClassifier.forwardedTrust_eq_ok_iff.mpr
    (.inr ⟨request, store.deviceByKey? forwarder, congrArg Except.ok hRequest, rfl, rfl⟩)

theorem roomKey?_of_not_forwards (h : ∀ content forwarder, ¬ event.Forwards content forwarder) :
    (store.classifier ownUser).roomKey? event = (other.classifier ownUser).roomKey? event := by
  refine Option.ext fun result => ?_
  simp only [KeyClassifier.roomKey?_eq_some_iff, h, false_and, exists_false, or_false]

/-- Only whether we vouch for the forwarder of a key that was asked for can make a difference. -/
theorem roomKey?_eq_iff (hSame : ∀ key, other.request? key = store.request? key) :
    (other.classifier ownUser).roomKey? event = (store.classifier ownUser).roomKey? event ↔
      ∀ content forwarder request, event.Forwards content forwarder →
        store.request? content.requestedKey = some request →
        ((other.classifier ownUser).vouchesFor (other.deviceByKey? forwarder) ↔
          (store.classifier ownUser).vouchesFor (store.deviceByKey? forwarder)) := by
  constructor
  · intro h content forwarder request hForwards hRequest
    rw [roomKey?_of_requested hForwards hRequest,
      roomKey?_of_requested hForwards ((hSame _).trans hRequest)] at h
    have hInjective : ∀ a b : Bool, (if a then RoomKeyTrust.safe else .unvouched) =
        (if b then .safe else .unvouched) → a = b := by decide
    have hTrust := congrArg ClassifiedKey.trust (Option.some.inj h)
    rw [hInjective _ _ hTrust]
  · intro h
    by_cases hForwards : ∃ content forwarder, event.Forwards content forwarder
    · obtain ⟨content, forwarder, hForwards⟩ := hForwards
      cases hRequest : store.request? content.requestedKey with
      | none =>
        rw [roomKey?_of_unrequested hForwards hRequest,
          roomKey?_of_unrequested hForwards ((hSame _).trans hRequest)]
      | some request =>
        rw [roomKey?_of_requested hForwards hRequest,
          roomKey?_of_requested hForwards ((hSame _).trans hRequest)]
        simp only [h content forwarder request hForwards hRequest]
    · refine roomKey?_of_not_forwards fun content forwarder hOne => ?_
      exact hForwards ⟨content, forwarder, hOne⟩

/-! ## What others can do to us -/

/-- What an event gives us does not depend on whether these devices of others are saved. -/
def IgnoresOthers (ownUser : UserId) (changes : List Change) (devices : List Device)
    (event : RoomKeyEvent) : Prop :=
  (∀ device ∈ devices, device.owner ≠ ownUser) →
    ((after (changes ++ [.saveDevices devices])).classifier ownUser).roomKey? event =
      ((after changes).classifier ownUser).roomKey? event

/-- Saving devices of others hides the device of ours that vouches for a key we asked for, or brings it
to light again. -/
def Sways (ownUser : UserId) (changes : List Change) (devices : List Device)
    (event : RoomKeyEvent) : Prop :=
  (∀ device ∈ devices, device.owner ≠ ownUser) ∧
    ∃ content forwarder request, event.Forwards content forwarder ∧
      (after changes).request? content.requestedKey = some request ∧
      (after changes).OwnVouches ownUser forwarder ∧
      ¬ ((after (changes ++ [.saveDevices devices])).Masked ownUser forwarder ↔
        (after changes).Masked ownUser forwarder)

/-- Others sway us only by masking one of our own verified devices, or by giving that up. -/
theorem ignoresOthers_iff_not_sways (ownUser : UserId) (changes : List Change)
    (devices : List Device) (event : RoomKeyEvent) :
    IgnoresOthers ownUser changes devices event ↔ ¬ Sways ownUser changes devices event := by
  have hSaved : after (changes ++ [.saveDevices devices]) = (after changes).saveDevices devices := by
    rw [after, List.foldl_append]
    rfl
  have hRequests (key : RequestedKey) :
      ((after changes).saveDevices devices).request? key = (after changes).request? key := by
    obtain ⟨hRequests, hIndex⟩ := saveDevices_requests_index (after changes) devices
    rw [request?, request?, hRequests, hIndex]
  have hShelved := shelved_after changes
  rw [IgnoresOthers, Sways, hSaved, roomKey?_eq_iff hRequests, not_and]
  refine forall_congr' fun hOthers => ?_
  simp only [vouchesFor_deviceByKey?_iff hShelved,
    vouchesFor_deviceByKey?_iff (hShelved.saveDevices devices), ownVouches_saveDevices_iff hOthers,
    and_congr_right_iff, not_iff_not, not_exists, not_and, not_not]

namespace Sample

def identity : IdentityKey := ⟨List.replicate 32 7, rfl⟩

def phone : Device := ⟨.bob, "PHONE", some identity, .verified, false⟩

def impostor : Device := .new .alice "LAPTOP" (some identity)

def wanted : ForwardedContent :=
  ⟨.megolm, .lobby, "sender", "session", "<key>", "<signing key>", [], false⟩

def asked : List Change :=
  [.saveDevices [phone], .saveRequest ⟨"request", wanted.requestedKey, true⟩]

def forwarded : RoomKeyEvent :=
  ⟨"m.forwarded_room_key", .bob, some identity.text, none, .list wanted.requiredItems⟩

end Sample

open Sample in
theorem impostor_masks_own_device : ¬ IgnoresOthers .bob asked [impostor] forwarded := by
  have hForwards : forwarded.Forwards wanted identity.text :=
    ⟨rfl, .inr (.inr ⟨rfl, rfl, rfl⟩), rfl⟩
  have hRequest : (after asked).request? wanted.requestedKey =
      some ⟨"request", wanted.requestedKey, true⟩ := by decide +kernel
  have hStill : (after (asked ++ [.saveDevices [impostor]])).request? wanted.requestedKey =
      some ⟨"request", wanted.requestedKey, true⟩ := by decide +kernel
  have hPhone : (after asked).deviceByKey? identity.text = some phone := by decide +kernel
  have hImpostor : (after (asked ++ [.saveDevices [impostor]])).deviceByKey? identity.text =
      some impostor := by decide +kernel
  intro h
  have hSame := h (by decide)
  rw [roomKey?_of_requested hForwards hRequest, roomKey?_of_requested hForwards hStill, hPhone,
    hImpostor] at hSame
  have hTrust : RoomKeyTrust.unvouched = .safe := congrArg ClassifiedKey.trust (Option.some.inj hSame)
  cases hTrust

end DeviceTrust.MemoryStore
