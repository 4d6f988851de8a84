import DeviceTrust.Proofs.Json.Record
/-! # Spellings of a record

A record is written as one object. It is read from every object in which the written fields are found, in
any order and among other names, and from the list of the written values. A field that stands for its
absence may be left out of an object, and one that stands for its omission off the end of a list.
-/

namespace DeviceTrust

variable {α β : Type}

namespace Json

def fields : Json → List (String × Json)
  | object fields => fields
  | _ => []

/-- An object in which the written fields are found, if they do not stand for their absence. -/
def Spells (absent written found : List (String × Json)) : Prop :=
  ∀ field ∈ written,
    lookup field.1 found = some field.2 ∨ field ∈ absent ∧ lookup field.1 found = none

theorem lookup_of_mem {field : String × Json} {fields : List (String × Json)}
    (hNames : (fields.map (·.1)).Nodup) (h : field ∈ fields) : lookup field.1 fields = some field.2 := by
  induction fields with
  | nil => cases h
  | cons first rest ih =>
    rw [List.map_cons, List.nodup_cons] at hNames
    rcases List.mem_cons.mp h with rfl | hRest
    · exact lookup_cons_self ..
    · have hNe : first.1 ≠ field.1 := by
        intro hSame
        exact hNames.1 (hSame ▸ List.mem_map_of_mem hRest)
      rw [lookup_cons_ne hNe, ih hNames.2 hRest]

theorem spells_self {absent fields : List (String × Json)} (hNames : (fields.map (·.1)).Nodup) :
    Spells absent fields fields :=
  fun _ hField => .inl (lookup_of_mem hNames hField)

end Json

namespace Codec

theorem encode_inj [Codec α] [Faithful α] {a b : α} : encode a = encode b ↔ a = b := by
  constructor
  · intro h
    have hRead := congrArg (decode (α := α)) h
    simpa using hRead
  · rintro rfl
    rfl

theorem encodeOption_eq_null_iff {encode : α → Json} (hNull : ∀ a, encode a ≠ .null)
    {a : Option α} : encodeOption encode a = .null ↔ a = none := by
  cases a <;> simp [encodeOption, hNull]

theorem decodeOption_encodeOption {encode : α → Json} {decode : Json → Option α}
    (hRead : ∀ a, decode (encode a) = some a) (hNull : ∀ a, encode a ≠ .null) (a : Option α) :
    decodeOption decode (encodeOption encode a) = some a := by
  cases a with
  | none => rfl
  | some a =>
    rw [encodeOption]
    unfold decodeOption
    split
    · next h => exact absurd h (hNull a)
    · rw [hRead, Option.map_some]

/-- A codec that reads back what it writes of the values that can be held, and reads only such values. -/
structure ReadsBack (α : Type) [Codec α] (Held : α → Prop) : Prop where
  written : ∀ {a : α}, Held a → decode (encode a) = some a
  held : ∀ {json : Json} {a : α}, decode json = some a → Held a
  again : ∀ {json : Json} {a : α}, decode json = some a → decode (encode a) = some a

theorem ReadsBack.of_faithful [Codec α] [Faithful α] : ReadsBack α (fun _ => True) where
  written _ := Faithful.decode_encode _
  held _ := trivial
  again _ := Faithful.decode_encode _

end Codec

namespace Record

/-- A reader of some written fields in all their spellings. -/
structure Reads (absent trailing : List (String × Json)) (reader : Reader β)
    (written : List (String × Json)) (b : β) : Prop where
  named : ∀ found, Json.Spells absent written found → reader (named found) = some (b, named found)
  ordered : ∀ kept dropped, written = kept ++ dropped → (∀ field ∈ dropped, field ∈ trailing) →
    reader (ordered (kept.map (·.2))) = some (b, ordered [])

namespace Reads

variable {absent trailing written : List (String × Json)} {next : α → Reader β} {json : Json}
  {name : String} {f : Field α} {a : α} {b : β}

theorem done : Reads absent trailing (pure b) [] b where
  named _ _ := rfl
  ordered kept dropped hWritten _ := by
    obtain ⟨rfl, rfl⟩ := List.append_eq_nil_iff.mp hWritten.symm
    rfl

theorem field (hRead : f.decode json = some a) (hAbsent : (f.name, json) ∈ absent → f.absent = some a)
    (hOmitted : (f.name, json) ∈ trailing → f.omitted = some a)
    (hNext : Reads absent trailing (next a) written b) :
    Reads absent trailing (Record.field f >>= next) ((f.name, json) :: written) b where
  named found hSpells := by
    have hHead := hSpells (f.name, json) (by simp)
    have hFound : f.find? found = some a := by
      rcases hHead with hThere | ⟨hMem, hGone⟩
      · simp [Field.find?, hThere, hRead]
      · simp [Field.find?, hGone, hAbsent hMem]
    have hRest := hNext.named found fun field hField => hSpells field (by simp [hField])
    exact bind_named_eq_some_iff.mpr ⟨a, hFound, hRest⟩
  ordered kept dropped hWritten hDropped := by
    rw [bind_ordered_eq_some_iff]
    cases kept with
    | nil =>
      obtain rfl : (f.name, json) :: written = dropped := hWritten
      have hRest := hNext.ordered [] written rfl fun field hField => hDropped field (by simp [hField])
      exact .inl ⟨a, rfl, hOmitted (hDropped _ (by simp)), hRest⟩
    | cons first kept =>
      obtain ⟨rfl, rfl⟩ := List.cons_eq_cons.mp hWritten
      have hRest := hNext.ordered kept dropped rfl hDropped
      exact .inr ⟨json, _, a, rfl, hRead, hRest⟩

theorem needed (hRead : f.decode json = some a) (hAbsent : (f.name, json) ∉ absent)
    (hNext : Reads absent [] (next a) written b) :
    Reads absent [] (Record.field f >>= next) ((f.name, json) :: written) b :=
  field hRead (fun h => absurd h hAbsent) (fun h => absurd h List.not_mem_nil) hNext

theorem required [Codec α] [Codec.Faithful α] (hAbsent : (name, Codec.encode a) ∉ absent)
    (hNext : Reads absent [] (next a) written b) :
    Reads absent [] (Record.field (.required name) >>= next) ((name, Codec.encode a) :: written) b :=
  needed (Codec.Faithful.decode_encode a) hAbsent hNext

theorem plain [Codec α] [Codec.Faithful α] (hNext : Reads [] [] (next a) written b) :
    Reads [] [] (Record.field (.required name) >>= next) ((name, Codec.encode a) :: written) b :=
  required List.not_mem_nil hNext

/-- An optional field stands for its absence when it is `null`, and is never left off a list. -/
theorem optional {encode : α → Json} {decode : Json → Option α} {next : Option α → Reader β}
    {a : Option α} (hRead : ∀ a, decode (encode a) = some a) (hNull : ∀ a, encode a ≠ .null)
    (hAbsent : ∀ json, (name, json) ∈ absent → json = .null)
    (hNext : Reads absent [] (next a) written b) :
    Reads absent [] (Record.field ⟨name, Codec.decodeOption decode, some none, none⟩ >>= next)
      ((name, Codec.encodeOption encode a) :: written) b := by
  refine field (Codec.decodeOption_encodeOption hRead hNull a) (fun h => ?_)
    (fun h => absurd h List.not_mem_nil) hNext
  rw [(Codec.encodeOption_eq_null_iff hNull).mp (hAbsent _ h)]

/-- A field with a default stands for its absence and for its omission when it has the default value. -/
theorem defaulted [Codec α] [Codec.Faithful α] {defaults : List (String × Json)} {value : α}
    (hNames : (defaults.map (·.1)).Nodup) (hValue : Json.lookup name defaults = some (Codec.encode value))
    (hNext : Reads defaults defaults (next a) written b) :
    Reads defaults defaults (Record.field (.defaulted name value) >>= next)
      ((name, Codec.encode a) :: written) b := by
  have hDefault (h : (name, Codec.encode a) ∈ defaults) : some value = some a := by
    have hSame := (Json.lookup_of_mem hNames h).symm.trans hValue
    rw [Codec.encode_inj.mp (Option.some_inj.mp hSame)]
  exact field (Codec.Faithful.decode_encode a) hDefault hDefault hNext

theorem decode_written {reader : Reader β} (hNames : (written.map (·.1)).Nodup)
    (h : Reads absent trailing reader written b) : decode reader (.object written) = some b :=
  decode_object_eq_some_iff.mpr ⟨_, h.named written (Json.spells_self hNames)⟩

end Reads

/-- A record that is read back from all spellings of what is written of it. -/
structure Legible (α : Type) [Codec α] (Held : α → Prop) (absent trailing : List (String × Json)) :
    Prop extends Codec.ReadsBack α Held where
  spelled : ∀ {a : α}, Held a → ∀ found, Json.Spells absent (Codec.encode a).fields found →
    Codec.decode (.object found) = some a
  listed : ∀ {a : α}, Held a → ∀ kept dropped, (Codec.encode a).fields = kept ++ dropped →
    (∀ field ∈ dropped, field ∈ trailing) →
    Codec.decode (.list (kept.map (·.2))) = some a

theorem Legible.of_reads [Codec α] {Held : α → Prop} {absent trailing : List (String × Json)}
    {reader : Reader α} (hDecode : ∀ json, Codec.decode json = decode reader json)
    (hEncode : ∀ a : α, Codec.encode a = .object (Codec.encode a).fields)
    (hNames : ∀ a : α, ((Codec.encode a).fields.map (·.1)).Nodup)
    (hHeld : ∀ json (a : α), Codec.decode json = some a → Held a)
    (hReads : ∀ a, Held a → Reads absent trailing reader (Codec.encode a).fields a) :
    Legible α Held absent trailing := by
  have hSpelled {a : α} (h : Held a) (found : List (String × Json))
      (hSpells : Json.Spells absent (Codec.encode a).fields found) :
      Codec.decode (.object found) = some a := by
    rw [hDecode]
    exact decode_object_eq_some_iff.mpr ⟨_, (hReads a h).named found hSpells⟩
  have hWritten {a : α} (h : Held a) : Codec.decode (Codec.encode a) = some a := by
    rw [hEncode, hDecode]
    exact (hReads a h).decode_written (hNames a)
  refine
    { written := hWritten
      held := hHeld _ _
      again := fun hRead => hWritten (hHeld _ _ hRead)
      spelled := hSpelled
      listed := ?_ }
  intro a h kept dropped hFields hDropped
  rw [hDecode]
  exact decode_list_eq_some_iff.mpr ((hReads a h).ordered kept dropped hFields hDropped)

theorem Legible.of_all_reads [Codec α] {absent trailing : List (String × Json)} {reader : Reader α}
    (hDecode : ∀ json, Codec.decode json = decode reader json)
    (hEncode : ∀ a : α, Codec.encode a = .object (Codec.encode a).fields)
    (hNames : ∀ a : α, ((Codec.encode a).fields.map (·.1)).Nodup)
    (hReads : ∀ a, Reads absent trailing reader (Codec.encode a).fields a) :
    Legible α (fun _ => True) absent trailing :=
  .of_reads hDecode hEncode hNames (fun _ _ _ => trivial) fun a _ => hReads a

end Record

end DeviceTrust
