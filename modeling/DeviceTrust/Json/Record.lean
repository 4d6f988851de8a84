import DeviceTrust.Json.Codec
/-! # Records

A record is read from an object, where each field is found by its name and unknown names are passed
over, or from a list that holds the fields in order and nothing after them.
-/

namespace DeviceTrust

structure Field (α : Type) where
  name : String
  decode : Json → Option α
  /-- The value of a field that the object does not name. -/
  absent : Option α := none
  /-- The value of a field before which the list ends. -/
  omitted : Option α := none

namespace Field

def required {α : Type} [Codec α] (name : String) : Field α := ⟨name, Codec.decode, none, none⟩

/-- A field that an object may leave out or set to `null`. -/
def optional {α : Type} [Codec α] (name : String) : Field (Option α) :=
  ⟨name, Codec.decodeOption Codec.decode, some none, none⟩

def defaulted {α : Type} [Codec α] (name : String) (value : α) : Field α :=
  ⟨name, Codec.decode, some value, some value⟩

end Field

/-- What is left to read of a record. -/
inductive Record where
  | named (fields : List (String × Json))
  | ordered (items : List Json)

namespace Record

abbrev Reader := StateT Record Option

def field {α : Type} (f : Field α) : Reader α := fun record =>
  match record with
  | named fields =>
    (match Json.lookup f.name fields with
      | some value => f.decode value
      | none => f.absent).map (·, record)
  | ordered [] => f.omitted.map (·, record)
  | ordered (item :: rest) => (f.decode item).map (·, ordered rest)

/-- Read a whole record, leaving nothing of a list. -/
def decode {α : Type} (reader : Reader α) : Json → Option α
  | .object fields => (reader (named fields)).map (·.1)
  | .list items =>
    match reader (ordered items) with
    | some (a, ordered []) => some a
    | _ => none
  | _ => none

end Record

end DeviceTrust
