import DeviceTrust.Proofs.Store.Requests
import DeviceTrust.Proofs.Table
/-! # What a memory store knows of devices

Each device is kept under its own owner and id, so saving the devices of some users leaves those of all
others alone. A search by identity key goes through the devices of all users and comes to the first one,
in the order of owners and then of ids.
-/

namespace DeviceTrust

theorem DeviceKey.compare_eq_lt_iff {key other : DeviceKey} : compare key other = .lt ↔
    compare key.owner other.owner = .lt ∨
      (key.owner = other.owner ∧ compare key.device other.device = .lt) := by
  rw [compare_eq_lex, Ordering.then_eq_lt, Std.compare_eq_iff_eq]

namespace MemoryStore

variable {store : MemoryStore} {device : Device} {devices : List Device} {user : UserId}
  {id identityKey : String}

def Keeps (store : MemoryStore) (device : Device) : Prop :=
  store.device? device.owner device.id = some device

/-- What stands under a key is the device of that owner and id. -/
def Shelved (store : MemoryStore) : Prop :=
  ∀ (key : DeviceKey) device, store.devices[key]? = some device → device.key = key

theorem Shelved.saveDevice (h : store.Shelved) (device : Device) :
    (store.saveDevice device).Shelved := by
  intro key found hFound
  obtain ⟨hKey, rfl⟩ | hOld := Table.of_getElem?_insert_eq_some hFound
  · exact hKey
  · exact h key found hOld

theorem Shelved.saveDevices (h : store.Shelved) (devices : List Device) :
    (store.saveDevices devices).Shelved := by
  induction devices generalizing store with
  | nil => exact h
  | cons device rest ih => exact ih (h.saveDevice device)

theorem Shelved.apply (h : store.Shelved) (change : Change) : (store.apply change).Shelved := by
  cases change with
  | saveDevices devices => exact h.saveDevices devices
  | setVerified | saveRequest => exact h
  | deleteRequest id =>
    rw [MemoryStore.apply, MemoryStore.deleteRequest]
    split <;> exact h

theorem Shelved.run (h : store.Shelved) (changes : List Change) :
    (changes.foldl MemoryStore.apply store).Shelved := by
  induction changes generalizing store with
  | nil => exact h
  | cons change rest ih => exact ih (h.apply change)

theorem shelved_after (changes : List Change) : (after changes).Shelved := by
  have hEmpty : empty.Shelved := by
    intro key device hDevice
    simp [empty] at hDevice
  exact hEmpty.run changes

theorem device?_saveDevices_of_others (h : ∀ device ∈ devices, device.owner ≠ user) :
    (store.saveDevices devices).device? user id = store.device? user id := by
  induction devices generalizing store with
  | nil => rfl
  | cons device rest ih =>
    obtain ⟨hDevice, hRest⟩ := List.forall_mem_cons.mp h
    have hKey : device.key ≠ ⟨user, id⟩ := fun hSame => hDevice (congrArg DeviceKey.owner hSame)
    calc
      _ = (store.saveDevice device).device? user id := ih hRest
      _ = store.device? user id := Table.getElem?_insert_of_ne hKey

theorem deviceByKey?_eq_some_iff (h : store.Shelved) : store.deviceByKey? identityKey = some device ↔
    store.Keeps device ∧ device.IdentifiedBy identityKey ∧
      ∀ other, store.Keeps other → compare other.key device.key = .lt →
        ¬ other.IdentifiedBy identityKey := by
  rw [deviceByKey?, Table.find?_values_eq_some_iff]
  simp only [Device.hasIdentityKey_iff, Bool.eq_false_iff, ne_eq]
  constructor
  · rintro ⟨key, hDevice, hHas, hFirst⟩
    obtain rfl := h key device hDevice
    exact ⟨hDevice, hHas, fun other hOther hLess => hFirst other.key other hLess hOther⟩
  · rintro ⟨hDevice, hHas, hFirst⟩
    refine ⟨device.key, hDevice, hHas, ?_⟩
    intro key other hLess hOther
    obtain rfl := h key other hOther
    exact hFirst other hOther hLess

end MemoryStore

end DeviceTrust
