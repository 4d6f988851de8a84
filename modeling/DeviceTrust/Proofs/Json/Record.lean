import DeviceTrust.Json.Record
/-! # Reading records field by field

A reader of an object looks every field up in the same object. A reader of a list takes one item for
each field, and once the items are used up only fields with a value for their omission can follow.
-/

namespace DeviceTrust

variable {α β : Type}

namespace Codec

/-- A codec that reads a value from its one written form and from nothing else. -/
class Exact (α : Type) [Codec α] : Prop where
  decode_eq_some : ∀ {json : Json} {a : α}, decode json = some a ↔ json = encode a

theorem text?_eq_some_iff {json : Json} {text : String} :
    json.text? = some text ↔ json = .text text := by
  cases json <;> simp [Json.text?]

instance : Exact Bool where
  decode_eq_some {json b} := by cases json <;> simp [decode, encode]

instance : Exact String := ⟨text?_eq_some_iff⟩

theorem mapM_decode_eq_some_iff [Codec α] [Exact α] {items : List Json} {values : List α} :
    items.mapM decode = some values ↔ items = values.map encode := by
  induction items generalizing values with
  | nil => cases values <;> simp
  | cons item rest ih =>
    simp only [List.mapM_cons, Option.bind_eq_bind, Option.bind_eq_some_iff, Option.pure_def,
      Option.some.injEq, Exact.decode_eq_some, ih]
    constructor
    · rintro ⟨value, rfl, values, rfl, rfl⟩
      rfl
    · intro h
      obtain ⟨value, values, rfl, rfl, rfl⟩ := List.map_eq_cons_iff.mp h.symm
      exact ⟨value, rfl, values, rfl, rfl⟩

instance [Codec α] [Exact α] : Exact (List α) where
  decode_eq_some {json values} := by
    cases json with
    | list items => exact mapM_decode_eq_some_iff.trans (by simp [encode])
    | _ => simp [decode, encode]

theorem decodeBelow_eq_some_iff {bound n : Nat} {json : Json} :
    decodeBelow bound json = some n ↔ json = encodeNat n ∧ n < bound := by
  constructor
  · intro h
    unfold decodeBelow at h
    split at h
    · split at h
      · next hBound =>
        cases h
        exact ⟨congrArg Json.int (Int.toNat_of_nonneg hBound.1).symm, hBound.2⟩
      · cases h
    · cases h
  · rintro ⟨rfl, hBound⟩
    exact decodeBelow_encodeNat hBound

end Codec

namespace Field

def find? (f : Field α) (fields : List (String × Json)) : Option α :=
  match Json.lookup f.name fields with
  | some value => f.decode value
  | none => f.absent

def Needed (f : Field α) : Prop := f.absent = none ∧ f.omitted = none

theorem Needed.find?_eq_some_iff {f : Field α} (h : f.Needed) {fields : List (String × Json)} {a : α} :
    f.find? fields = some a ↔
      ∃ value, Json.lookup f.name fields = some value ∧ f.decode value = some a := by
  rw [find?]
  cases Json.lookup f.name fields <;> simp [h.1]

variable [Codec α] [Codec.Exact α] {name : String} {fields : List (String × Json)} {a value : α}

theorem required_find?_eq_some_iff :
    (required name : Field α).find? fields = some a ↔
      Json.lookup name fields = some (Codec.encode a) := by
  simp only [find?, required]
  cases Json.lookup name fields with
  | none => simp
  | some found => simpa using Codec.Exact.decode_eq_some

theorem defaulted_find?_eq_some_iff :
    (defaulted name value).find? fields = some a ↔
      Json.lookup name fields = some (Codec.encode a) ∨
        Json.lookup name fields = none ∧ a = value := by
  simp only [find?, defaulted]
  cases Json.lookup name fields with
  | none => simp [eq_comm]
  | some found => simpa using Codec.Exact.decode_eq_some

end Field

namespace Record

variable {f : Field α} {next : α → Reader β} {fields : List (String × Json)} {items : List Json}
  {result : β × Record}

theorem decode_object_eq_some_iff {reader : Reader β} {b : β} :
    decode reader (.object fields) = some b ↔ ∃ record, reader (named fields) = some (b, record) := by
  simp [decode]

theorem decode_list_eq_some_iff {reader : Reader β} {b : β} :
    decode reader (.list items) = some b ↔ reader (ordered items) = some (b, ordered []) := by
  simp only [decode]
  split
  · next h => simp [h]
  · next h =>
    refine iff_of_false nofun ?_
    intro hRead
    exact h b hRead

theorem bind_named_eq_some_iff :
    (field f >>= next) (named fields) = some result ↔
      ∃ a, f.find? fields = some a ∧ next a (named fields) = some result := by
  change ((f.find? fields).map (·, named fields)).bind (fun read => next read.1 read.2) = _ ↔ _
  cases f.find? fields <;> simp

theorem bind_ordered_eq_some_iff :
    (field f >>= next) (ordered items) = some result ↔
      (∃ a, items = [] ∧ f.omitted = some a ∧ next a (ordered []) = some result) ∨
      ∃ item rest a, items = item :: rest ∧ f.decode item = some a ∧
        next a (ordered rest) = some result := by
  cases items with
  | nil =>
    change (f.omitted.map (·, ordered [])).bind (fun read => next read.1 read.2) = _ ↔ _
    cases f.omitted <;> simp
  | cons item rest =>
    change ((f.decode item).map (·, ordered rest)).bind (fun read => next read.1 read.2) = _ ↔ _
    simp only [Option.bind_eq_some_iff, Option.map_eq_some_iff]
    constructor
    · rintro ⟨_, ⟨a, hItem, rfl⟩, hNext⟩
      exact .inr ⟨item, rest, a, rfl, hItem, hNext⟩
    · rintro (⟨_, hEmpty, _⟩ | ⟨_, _, a, hItems, hItem, hNext⟩)
      · cases hEmpty
      · cases hItems
        exact ⟨_, ⟨a, hItem, rfl⟩, hNext⟩

theorem pure_ordered_eq_some_iff {a b : α} :
    (pure a : Reader α) (ordered items) = some (b, ordered []) ↔ b = a ∧ items = [] := by
  change some (a, ordered items) = some (b, ordered []) ↔ _
  simp [eq_comm]

variable [Codec α] [Codec.Exact α] {name : String} {value : α}

theorem bind_required_ordered_eq_some_iff :
    (field (.required name) >>= next) (ordered items) = some result ↔
      ∃ a rest, items = Codec.encode a :: rest ∧ next a (ordered rest) = some result := by
  rw [bind_ordered_eq_some_iff]
  constructor
  · rintro (⟨_, _, hOmitted, _⟩ | ⟨item, rest, a, rfl, hItem, hNext⟩)
    · cases hOmitted
    · exact ⟨a, rest, by rw [Codec.Exact.decode_eq_some.mp hItem], hNext⟩
  · rintro ⟨a, rest, rfl, hNext⟩
    exact .inr ⟨_, rest, a, rfl, Codec.Exact.decode_eq_some.mpr rfl, hNext⟩

theorem bind_defaulted_ordered_eq_some_iff :
    (field (.defaulted name value) >>= next) (ordered items) = some result ↔
      (items = [] ∧ next value (ordered []) = some result) ∨
      ∃ a rest, items = Codec.encode a :: rest ∧ next a (ordered rest) = some result := by
  rw [bind_ordered_eq_some_iff]
  constructor
  · rintro (⟨_, rfl, hOmitted, hNext⟩ | ⟨item, rest, a, rfl, hItem, hNext⟩)
    · cases hOmitted
      exact .inl ⟨rfl, hNext⟩
    · exact .inr ⟨a, rest, by rw [Codec.Exact.decode_eq_some.mp hItem], hNext⟩
  · rintro (⟨rfl, hNext⟩ | ⟨a, rest, rfl, hNext⟩)
    · exact .inl ⟨_, rfl, rfl, hNext⟩
    · exact .inr ⟨_, rest, a, rfl, Codec.Exact.decode_eq_some.mpr rfl, hNext⟩

end Record

/-- JSON that gives two values under these names, or in a list. -/
def Json.Pairs (json : Json) (first second : String) (a b : Json) : Prop :=
  match json with
  | .object fields => lookup first fields = some a ∧ lookup second fields = some b
  | .list items => items = [a, b]
  | _ => False

theorem Record.decode_pair_eq_some_iff {γ : Type} {f : Field α} {g : Field β} {make : α → β → γ}
    {json : Json} {c : γ} (hf : f.Needed) (hg : g.Needed) :
    Record.decode (do let a ← field f; let b ← field g; return make a b) json = some c ↔
      ∃ first second, json.Pairs f.name g.name first second ∧
        ∃ a b, f.decode first = some a ∧ g.decode second = some b ∧ make a b = c := by
  cases json with
  | object fields =>
    rw [decode_object_eq_some_iff]
    simp only [bind_named_eq_some_iff, hf.find?_eq_some_iff, hg.find?_eq_some_iff]
    constructor
    · rintro ⟨_, a, ⟨first, hFirst, ha⟩, b, ⟨second, hSecond, hb⟩, h⟩
      cases h
      exact ⟨first, second, ⟨hFirst, hSecond⟩, a, b, ha, hb, rfl⟩
    · rintro ⟨first, second, ⟨hFirst, hSecond⟩, a, b, ha, hb, rfl⟩
      exact ⟨_, a, ⟨first, hFirst, ha⟩, b, ⟨second, hSecond, hb⟩, rfl⟩
  | list items =>
    rw [decode_list_eq_some_iff]
    simp only [bind_ordered_eq_some_iff, hf.2, hg.2, pure_ordered_eq_some_iff]
    constructor
    · -- Neither value can be omitted, so the list has one item for each of them.
      rintro (⟨_, _, ⟨⟩, _⟩ | ⟨first, _, a, rfl, ha, hRest⟩)
      obtain ⟨_, _, ⟨⟩, _⟩ | ⟨second, _, b, rfl, hb, rfl, rfl⟩ := hRest
      exact ⟨first, second, rfl, a, b, ha, hb, rfl⟩
    · rintro ⟨first, second, rfl, a, b, ha, hb, rfl⟩
      exact .inr ⟨first, _, a, rfl, ha, .inr ⟨second, _, b, rfl, hb, rfl, rfl⟩⟩
  | _ => exact iff_of_false nofun fun ⟨_, _, h, _⟩ => h

end DeviceTrust
