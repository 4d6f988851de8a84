import DeviceTrust.Proofs.Store.Devices
import Mathlib.Data.List.Induction
/-! # The last device that is saved wins

For its devices a memory store is a map from owners and ids in which the last write wins. Reading one
device, all devices of a user, or the device with an identity key are three views of that map.
-/

namespace DeviceTrust

def Device.Precedes (device other : Device) : Prop :=
  compare device.owner other.owner = .lt ∨
    (device.owner = other.owner ∧ compare device.id other.id = .lt)

theorem Device.precedes_iff {device other : Device} :
    device.Precedes other ↔ compare device.key other.key = .lt := by
  rw [DeviceKey.compare_eq_lt_iff]
  exact Iff.rfl

namespace MemoryStore

def savedDevices (changes : List Change) : List Device :=
  changes.flatMap fun
    | .saveDevices devices => devices
    | _ => []

def lastUnder? (devices : List Device) (user : UserId) (id : String) : Option Device :=
  devices.findRev? fun device => device.owner == user && device.id == id

/-- What a store tells of its devices, if those were saved in it one after the other. -/
structure LastWins (devices : List Device) (store : MemoryStore) : Prop where
  device : ∀ user id, store.device? user id = lastUnder? devices user id
  listed : ∀ user device, device ∈ store.userDevices user ↔
    device.owner = user ∧ lastUnder? devices user device.id = some device
  ascending : ∀ user, (store.userDevices user).Pairwise fun a b => compare a.id b.id = .lt
  found : ∀ identityKey, (store.deviceByKey? identityKey).isSome ↔
    ∃ user id device, lastUnder? devices user id = some device ∧
      device.IdentifiedBy identityKey
  first : ∀ identityKey device, store.deviceByKey? identityKey = some device ↔
    device ∈ store.userDevices device.owner ∧ device.IdentifiedBy identityKey ∧
      ∀ user, ∀ other ∈ store.userDevices user, other.IdentifiedBy identityKey →
        other = device ∨ device.Precedes other

variable {store : MemoryStore} {device : Device} {devices more : List Device} {user : UserId}
  {id identityKey : String}

/-! ## One device -/

theorem lastUnder?_append : lastUnder? (devices ++ more) user id =
    (lastUnder? more user id).or (lastUnder? devices user id) := by
  simp only [lastUnder?, List.findRev?_eq_find?_reverse, List.reverse_append, List.find?_append]

theorem device?_saveDevice : (store.saveDevice device).device? user id =
    (lastUnder? [device] user id).or (store.device? user id) := by
  by_cases hKey : device.owner = user ∧ device.id = id
  · obtain ⟨rfl, rfl⟩ := hKey
    have hLast : lastUnder? [device] device.owner device.id = some device := by simp [lastUnder?]
    rw [hLast]
    exact Std.TreeMap.getElem?_insert_self
  · have hNone : lastUnder? [device] user id = none := by simpa [lastUnder?] using hKey
    have hOther : device.key ≠ ⟨user, id⟩ := by simpa [Device.key] using hKey
    rw [hNone]
    exact Table.getElem?_insert_of_ne hOther

theorem device?_saveDevices : (store.saveDevices devices).device? user id =
    (lastUnder? devices user id).or (store.device? user id) := by
  induction devices generalizing store with
  | nil => rfl
  | cons device rest ih =>
    show ((store.saveDevice device).saveDevices rest).device? user id =
      (lastUnder? ([device] ++ rest) user id).or (store.device? user id)
    rw [ih, device?_saveDevice, lastUnder?_append, Option.or_assoc]

theorem device?_apply (change : Change) : (store.apply change).device? user id =
    (lastUnder? (savedDevices [change]) user id).or (store.device? user id) := by
  cases change with
  | saveDevices devices =>
    have hSaved : savedDevices [.saveDevices devices] = devices := List.append_nil _
    rw [hSaved]
    exact device?_saveDevices
  | setVerified | saveRequest => rfl
  | deleteRequest id =>
    rw [apply, deleteRequest]
    split <;> rfl

theorem device?_after (changes : List Change) :
    (after changes).device? user id = lastUnder? (savedDevices changes) user id := by
  induction changes using List.reverseRecOn with
  | nil => simp [after, device?, empty, lastUnder?, savedDevices]
  | append_singleton past change ih =>
    have hSaved : savedDevices (past ++ [change]) = savedDevices past ++ savedDevices [change] :=
      List.flatMap_append
    rw [hSaved, lastUnder?_append, ← ih, ← device?_apply, after, List.foldl_append]
    rfl

/-! ## The devices of a user -/

theorem Shelved.mem_toList (h : store.Shelved) {key : DeviceKey} :
    (key, device) ∈ store.devices.toList ↔ key = device.key ∧ store.Keeps device := by
  rw [Std.TreeMap.mem_toList_iff_getElem?_eq_some]
  constructor
  · intro hDevice
    obtain rfl := h key device hDevice
    exact ⟨rfl, hDevice⟩
  · rintro ⟨rfl, hDevice⟩
    exact hDevice

theorem mem_userDevices (h : store.Shelved) : device ∈ store.userDevices user ↔
    device.owner = user ∧ store.device? user device.id = some device := by
  simp only [userDevices, List.mem_filterMap, Prod.exists, h.mem_toList,
    Option.ite_none_right_eq_some, Option.some.injEq]
  constructor
  · rintro ⟨_, device, ⟨rfl, hDevice⟩, rfl, rfl⟩
    exact ⟨rfl, hDevice⟩
  · rintro ⟨rfl, hDevice⟩
    exact ⟨device.key, device, ⟨rfl, hDevice⟩, rfl, rfl⟩

theorem mem_userDevices_owner (h : store.Shelved) :
    device ∈ store.userDevices device.owner ↔ store.Keeps device := by
  rw [mem_userDevices h, and_iff_right rfl, Keeps]

theorem userDevices_ascending (h : store.Shelved) (user : UserId) :
    (store.userDevices user).Pairwise fun a b => compare a.id b.id = .lt := by
  have hOrder : store.devices.toList.Pairwise fun a b => compare a.1 b.1 = .lt :=
    Std.TreeMap.ordered_keys_toList
  rw [userDevices, List.pairwise_filterMap]
  refine hOrder.imp_of_mem ?_
  rintro ⟨_, first⟩ ⟨_, second⟩ hFirst hSecond hLess a hA b hB
  simp only [Option.ite_none_right_eq_some, Option.some.injEq] at hA hB
  obtain ⟨hOwner, rfl⟩ := hA
  obtain ⟨hSame, rfl⟩ := hB
  obtain ⟨rfl, _⟩ := h.mem_toList.mp hFirst
  obtain ⟨rfl, _⟩ := h.mem_toList.mp hSecond
  rw [DeviceKey.compare_eq_lt_iff, hOwner, hSame] at hLess
  obtain hLess | ⟨_, hLess⟩ := hLess
  · cases Std.compare_self.symm.trans hLess
  · exact hLess

/-! ## The device with an identity key -/

theorem isSome_deviceByKey?_iff (h : store.Shelved) : (store.deviceByKey? identityKey).isSome ↔
    ∃ device, store.Keeps device ∧ device.IdentifiedBy identityKey := by
  rw [deviceByKey?, List.find?_isSome, Table.values_eq_map_toList]
  simp only [List.mem_map, Prod.exists, h.mem_toList, Device.hasIdentityKey_iff]
  constructor
  · rintro ⟨_, ⟨_, device, ⟨_, hDevice⟩, rfl⟩, hHas⟩
    exact ⟨device, hDevice, hHas⟩
  · rintro ⟨device, hDevice, hHas⟩
    exact ⟨device, ⟨device.key, device, ⟨rfl, hDevice⟩, rfl⟩, hHas⟩

theorem Keeps.eq_of_key_eq {other : Device} (hDevice : store.Keeps device)
    (hOther : store.Keeps other) (h : other.key = device.key) : other = device := by
  have hFound : store.devices[device.key]? = some other := h ▸ hOther
  exact Option.some.inj (hFound.symm.trans hDevice)

theorem Keeps.not_lt_iff {other : Device} (hDevice : store.Keeps device) (hOther : store.Keeps other) :
    ¬ compare other.key device.key = .lt ↔ other = device ∨ device.Precedes other := by
  rw [Device.precedes_iff]
  constructor
  · intro hNot
    cases hOrder : compare other.key device.key with
    | lt => exact absurd hOrder hNot
    | eq => exact .inl (hDevice.eq_of_key_eq hOther (Std.compare_eq_iff_eq.mp hOrder))
    | gt => exact .inr (Std.OrientedCmp.lt_of_gt hOrder)
  · rintro (rfl | hLess) hOther
    · cases Std.compare_self.symm.trans hOther
    · cases Std.compare_self.symm.trans (Std.TransCmp.lt_trans hLess hOther)

theorem deviceByKey?_eq_some_iff_first (h : store.Shelved) :
    store.deviceByKey? identityKey = some device ↔
      device ∈ store.userDevices device.owner ∧ device.IdentifiedBy identityKey ∧
        ∀ user, ∀ other ∈ store.userDevices user, other.IdentifiedBy identityKey →
          other = device ∨ device.Precedes other := by
  rw [deviceByKey?_eq_some_iff h, mem_userDevices_owner h]
  refine and_congr_right fun hDevice => and_congr_right fun _ => ?_
  constructor
  · intro hFirst user other hMem hHas
    have hOther : store.Keeps other := by
      obtain ⟨rfl, hOther⟩ := (mem_userDevices h).mp hMem
      exact hOther
    refine (hDevice.not_lt_iff hOther).mp fun hLess => ?_
    exact hFirst other hOther hLess hHas
  · intro hFirst other hOther hLess hHas
    have hPlace := hFirst other.owner other ((mem_userDevices_owner h).mpr hOther) hHas
    exact (hDevice.not_lt_iff hOther).mpr hPlace hLess

/-- After any changes a store has, of the devices that were saved, the last one under each owner and id. -/
theorem last_saved_device_wins (changes : List Change) :
    LastWins (savedDevices changes) (after changes) := by
  have hShelved := shelved_after changes
  constructor
  · exact fun user id => device?_after changes
  · intro user device
    rw [mem_userDevices hShelved, device?_after]
  · exact userDevices_ascending hShelved
  · intro identityKey
    rw [isSome_deviceByKey?_iff hShelved]
    simp only [← device?_after]
    constructor
    · rintro ⟨device, hDevice, hHas⟩
      exact ⟨device.owner, device.id, device, hDevice, hHas⟩
    · rintro ⟨user, id, device, hDevice, hHas⟩
      obtain ⟨rfl, rfl⟩ := DeviceKey.mk.inj (hShelved _ _ hDevice)
      exact ⟨device, hDevice, hHas⟩
  · exact fun identityKey device => deviceByKey?_eq_some_iff_first hShelved

end MemoryStore

end DeviceTrust
