import Std.Data.TreeMap.Lemmas
/-! # Tables

What a table has under a key after an entry was made or taken out under that key or another, and what
a search through a table comes to.
-/

namespace DeviceTrust.Table

variable {κ α : Type} [Ord κ] [Std.TransOrd κ] {table : Std.TreeMap κ α} {key other : κ}
  {value found : α}

theorem getElem?_erase_eq_none (h : table[other]? = none) : (table.erase key)[other]? = none := by
  rw [Std.TreeMap.getElem?_erase, h, ite_self]

theorem isSome_getElem?_insert (h : table[other]?.isSome) :
    (table.insert key value)[other]?.isSome := by
  rw [Std.TreeMap.getElem?_insert]
  split
  · rfl
  · exact h

variable [Std.LawfulEqOrd κ]

theorem getElem?_insert_of_ne (h : key ≠ other) :
    (table.insert key value)[other]? = table[other]? := by
  rw [Std.TreeMap.getElem?_insert, if_neg (mt Std.compare_eq_iff_eq.mp h)]

theorem getElem?_erase_of_ne (h : key ≠ other) : (table.erase key)[other]? = table[other]? := by
  rw [Std.TreeMap.getElem?_erase, if_neg (mt Std.compare_eq_iff_eq.mp h)]

theorem of_getElem?_insert_eq_some (h : (table.insert key value)[other]? = some found) :
    key = other ∧ value = found ∨ table[other]? = some found := by
  rw [Std.TreeMap.getElem?_insert] at h
  split at h
  · next hKey => exact .inl ⟨Std.compare_eq_iff_eq.mp hKey, Option.some.inj h⟩
  · exact .inr h

theorem of_getElem?_erase_eq_some (h : (table.erase key)[other]? = some found) :
    key ≠ other ∧ table[other]? = some found := by
  rw [Std.TreeMap.getElem?_erase] at h
  split at h
  · cases h
  · next hKey => exact ⟨mt Std.compare_eq_iff_eq.mpr hKey, h⟩

/-! ## Searches -/

omit [Std.TransOrd κ] [Std.LawfulEqOrd κ] in
theorem values_eq_map_toList (table : Std.TreeMap κ α) : table.values = table.toList.map Prod.snd :=
  calc
    table.values = table.foldr (fun _ value rest => value :: rest) [] := rfl
    _ = table.toList.foldr (fun entry rest => entry.2 :: rest) [] :=
      Std.TreeMap.foldr_eq_foldr_toList
    _ = table.toList.map Prod.snd := List.map_eq_foldr.symm

theorem find?_values_eq_some_iff {good : α → Bool} : table.values.find? good = some value ↔
    ∃ key : κ, table[key]? = some value ∧ good value = true ∧
      ∀ (other : κ) found, compare other key = .lt → table[other]? = some found →
        good found = false := by
  have hOrder : table.toList.Pairwise fun a b => compare a.1 b.1 = .lt :=
    Std.TreeMap.ordered_keys_toList
  rw [values_eq_map_toList, List.find?_map, Option.map_eq_some_iff]
  simp only [List.find?_eq_some_iff_append, Function.comp_apply, Bool.not_eq_true']
  constructor
  · rintro ⟨⟨key, _⟩, ⟨hGood, before, after, hSplit, hBefore⟩, rfl⟩
    rw [hSplit] at hOrder
    refine ⟨key, Std.TreeMap.mem_toList_iff_getElem?_eq_some.mp (by simp [hSplit]), hGood, ?_⟩
    intro other found hLess hFound
    have hMem : (other, found) ∈ table.toList :=
      Std.TreeMap.mem_toList_iff_getElem?_eq_some.mpr hFound
    rw [hSplit, List.mem_append, List.mem_cons] at hMem
    rcases hMem with hMem | hSame | hMem
    · exact hBefore (other, found) hMem
    · cases hSame
      cases Std.compare_self.symm.trans hLess
    · have hGreater := List.rel_of_pairwise_cons (List.pairwise_append.mp hOrder).2.1 hMem
      cases Std.compare_self.symm.trans (Std.TransCmp.lt_trans hLess hGreater)
  · rintro ⟨key, hEntry, hGood, hFirst⟩
    obtain ⟨before, after, hSplit⟩ :=
      List.mem_iff_append.mp (Std.TreeMap.mem_toList_iff_getElem?_eq_some.mpr hEntry)
    refine ⟨(key, value), ⟨hGood, before, after, hSplit, ?_⟩, rfl⟩
    rintro ⟨other, found⟩ hMem
    rw [hSplit] at hOrder
    have hLess := (List.pairwise_append.mp hOrder).2.2 _ hMem _ List.mem_cons_self
    refine hFirst other found hLess (Std.TreeMap.mem_toList_iff_getElem?_eq_some.mp ?_)
    rw [hSplit]
    exact List.mem_append_left _ hMem

end DeviceTrust.Table
