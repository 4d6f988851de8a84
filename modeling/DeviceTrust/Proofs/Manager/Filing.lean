import DeviceTrust.Manager.Registry
import DeviceTrust.Proofs.Table
/-! # Filing

A table that files objects of a registry under their names, where all of them are over or none is. No
object is filed twice, and none both as over and as live. So an object that is moved on can be kept in
its table, or taken out of it, without a look at the other entries.
-/

namespace DeviceTrust.Registry

variable {α : Type} {registry : Registry α} {table finished : Std.TreeMap String (Handle α)}
  {name : α → String} {isOver : α → Bool} {ended changed : Bool} {key other : String}
  {handle found : Handle α} {a b : α}

theorem index_lt_of_get? (h : registry.get? handle = some a) :
    handle.index < registry.cells.size := by
  obtain ⟨cell, hCell, _⟩ := Option.map_eq_some_iff.mp h
  exact (Array.getElem?_eq_some_iff.mp hCell).1

theorem add_fst_ne (h : registry.get? handle = some a) : (registry.add b).1 ≠ handle := by
  have hIndex := index_lt_of_get? h
  rintro rfl
  exact Nat.lt_irrefl _ hIndex

theorem get?_add_of_some (h : registry.get? handle = some a) :
    (registry.add b).2.get? handle = some a := by
  have hIndex : handle.index ≠ registry.cells.size := Nat.ne_of_lt (index_lt_of_get? h)
  obtain ⟨cell, hCell, rfl⟩ := Option.map_eq_some_iff.mp h
  simp [get?, add, Array.getElem?_push, hIndex, hCell]

theorem get?_set_self (h : registry.get? handle = some a) :
    (registry.set handle b changed).get? handle = some b := by
  obtain ⟨cell, hCell, _⟩ := Option.map_eq_some_iff.mp h
  simp [get?, set, Array.getElem?_modify, hCell]

theorem get?_set_of_ne (h : handle ≠ found) :
    (registry.set handle b changed).get? found = registry.get? found := by
  obtain ⟨index⟩ := handle
  obtain ⟨otherIndex⟩ := found
  have hIndex : index ≠ otherIndex := fun hEq => h (congrArg Handle.mk hEq)
  simp [get?, set, Array.getElem?_modify, hIndex]

/-- What a key of the table leads to is an object of that name, which is over or not. -/
def Files (registry : Registry α) (name : α → String) (isOver : α → Bool) (ended : Bool)
    (table : Std.TreeMap String (Handle α)) : Prop :=
  ∀ (key : String) handle, table[key]? = some handle →
    ∃ a, registry.get? handle = some a ∧ name a = key ∧ isOver a = ended

namespace Files

theorem empty : registry.Files name isOver ended ∅ := by
  intro key handle h
  simp at h

theorem unique (h : registry.Files name isOver ended table) (hKey : table[key]? = some handle)
    (hOther : table[other]? = some handle) : key = other := by
  obtain ⟨a, hGet, rfl, _⟩ := h key handle hKey
  obtain ⟨b, hFound, rfl, _⟩ := h other handle hOther
  cases hGet.symm.trans hFound
  rfl

theorem apart (h : registry.Files name isOver false table)
    (hFinished : registry.Files name isOver true finished) (hKey : table[key]? = some handle) :
    finished[other]? ≠ some handle := by
  intro hOther
  obtain ⟨a, hGet, _, hLive⟩ := h key handle hKey
  obtain ⟨b, hFound, _, hOver⟩ := hFinished other handle hOther
  cases hGet.symm.trans hFound
  cases hLive.symm.trans hOver

theorem add (h : registry.Files name isOver ended table) (a : α) :
    (registry.add a).2.Files name isOver ended table := by
  intro key handle hKey
  obtain ⟨b, hGet, hFiled⟩ := h key handle hKey
  exact ⟨b, get?_add_of_some hGet, hFiled⟩

theorem insert (h : registry.Files name isOver ended table) (hGet : registry.get? handle = some a)
    (hName : name a = key) (hOver : isOver a = ended) :
    registry.Files name isOver ended (table.insert key handle) := by
  intro other found hFound
  obtain ⟨rfl, rfl⟩ | hFound := Table.of_getElem?_insert_eq_some hFound
  · exact ⟨a, hGet, hName, hOver⟩
  · exact h other found hFound

theorem enter (h : registry.Files name isOver ended table) (hName : name a = key)
    (hOver : isOver a = ended) :
    (registry.add a).2.Files name isOver ended (table.insert key (registry.add a).1) :=
  (h.add a).insert (registry.get?_add_self a) hName hOver

theorem erase (h : registry.Files name isOver ended table) (key : String) :
    registry.Files name isOver ended (table.erase key) := by
  intro other found hFound
  exact h other found (Table.of_getElem?_erase_eq_some hFound).2

/-- An object that is not filed may get any value. -/
theorem set_unfiled (h : registry.Files name isOver ended table)
    (hUnfiled : ∀ key : String, table[key]? ≠ some handle) :
    (registry.set handle b changed).Files name isOver ended table := by
  intro key found hKey
  have hHandle : handle ≠ found := by
    rintro rfl
    exact hUnfiled key hKey
  obtain ⟨a, hGet, hFiled⟩ := h key found hKey
  exact ⟨a, (get?_set_of_ne hHandle).trans hGet, hFiled⟩

/-- A filed object that keeps its name, and is still over or not, stays where it is. -/
theorem set_filed (h : registry.Files name isOver ended table) (hKey : table[key]? = some handle)
    (hName : name b = key) (hOver : isOver b = ended) :
    (registry.set handle b changed).Files name isOver ended table := by
  intro other found hOther
  obtain ⟨a, hGet, hFiled⟩ := h other found hOther
  by_cases hHandle : handle = found
  · subst hHandle
    obtain rfl := h.unique hKey hOther
    exact ⟨b, get?_set_self hGet, hName, hOver⟩
  · exact ⟨a, (get?_set_of_ne hHandle).trans hGet, hFiled⟩

/-- A filed object may get any value when it is taken out. -/
theorem set_erase (h : registry.Files name isOver ended table) (hKey : table[key]? = some handle) :
    (registry.set handle b changed).Files name isOver ended (table.erase key) := by
  refine (h.erase key).set_unfiled ?_
  intro other hOther
  obtain ⟨hNe, hOther⟩ := Table.of_getElem?_erase_eq_some hOther
  exact hNe (h.unique hKey hOther)

end Files

end DeviceTrust.Registry
