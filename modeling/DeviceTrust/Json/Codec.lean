import DeviceTrust.Json
/-! # Codecs of plain values

A `Codec` writes a value as JSON and reads it back. Reading is strict: no value is taken for another
kind of value, and `null` is read only where a value may be missing.
-/

namespace DeviceTrust

class Codec (α : Type) where
  encode : α → Json
  decode : Json → Option α

namespace Codec

class Faithful (α : Type) [Codec α] : Prop where
  decode_encode : ∀ a : α, decode (encode a) = some a

attribute [simp] Faithful.decode_encode

instance : Codec Bool where
  encode := .bool
  decode
    | .bool b => some b
    | _ => none

instance : Faithful Bool := ⟨fun _ => rfl⟩

instance : Codec String where
  encode := .text
  decode := Json.text?

instance : Faithful String := ⟨fun _ => rfl⟩

/-- Free-form content is any JSON value, `null` included. -/
instance : Codec Json where
  encode := id
  decode := some

instance : Faithful Json := ⟨fun _ => rfl⟩

instance {α : Type} [Codec α] : Codec (List α) where
  encode items := .list (items.map encode)
  decode
    | .list items => items.mapM decode
    | _ => none

theorem mapM_decode_map_encode {α : Type} [Codec α] [Faithful α] (items : List α) :
    (items.map encode).mapM decode = some items := by
  induction items with
  | nil => rfl
  | cons a rest ih => simp [List.map_cons, List.mapM_cons, ih]

instance {α : Type} [Codec α] [Faithful α] : Faithful (List α) :=
  ⟨fun items => mapM_decode_map_encode items⟩

def decodeBelow (bound : Nat) : Json → Option Nat
  | .int n => if 0 ≤ n ∧ n.toNat < bound then some n.toNat else none
  | _ => none

def encodeNat (n : Nat) : Json := .int n

theorem decodeBelow_encodeNat {bound n : Nat} (h : n < bound) :
    decodeBelow bound (encodeNat n) = some n := by
  simp [decodeBelow, encodeNat, h]

def encodeOption {α : Type} (encode : α → Json) : Option α → Json
  | none => .null
  | some a => encode a

def decodeOption {α : Type} (decode : Json → Option α) : Json → Option (Option α)
  | .null => some none
  | value => (decode value).map some

/-- A table of texts is an object; lists do not stand in for it. -/
def encodeTexts (entries : List (String × String)) : Json :=
  .object (entries.map fun entry => (entry.1, .text entry.2))

def decodeTexts : Json → Option (List (String × String))
  | .object fields => fields.mapM fun field => field.2.text?.map (field.1, ·)
  | _ => none

theorem decodeTexts_encodeTexts (entries : List (String × String)) :
    decodeTexts (encodeTexts entries) = some entries := by
  simp only [decodeTexts, encodeTexts, List.mapM_map]
  induction entries with
  | nil => rfl
  | cons entry rest ih => rw [List.mapM_cons, ih]; rfl

/-- A named choice is its name as a text, or an object with that one name and `null` under it. -/
def choice : Json → Option String
  | .text name => some name
  | .object [(name, .null)] => some name
  | _ => none

end Codec

end DeviceTrust
