/-! # JSON values

The value type of every record, event content and message body. Integers are kept apart from other
numbers: a field that asks for an integer takes no decimal, also not one with a zero fraction.
-/

namespace DeviceTrust

inductive Json where
  | null
  | bool (value : Bool)
  | int (value : Int)
  /-- The number `mantissa / 10 ^ places`. -/
  | decimal (mantissa : Int) (places : Nat)
  | text (value : String)
  | list (items : List Json)
  | object (fields : List (String × Json))
  deriving Inhabited

namespace Json

def lookup (name : String) : List (String × Json) → Option Json
  | [] => none
  | (key, value) :: rest => if key = name then some value else lookup name rest

theorem lookup_cons_self (name : String) (value : Json) (rest : List (String × Json)) :
    lookup name ((name, value) :: rest) = some value := by
  simp [lookup]

theorem lookup_cons_ne {key name : String} (h : key ≠ name) (value : Json)
    (rest : List (String × Json)) : lookup name ((key, value) :: rest) = lookup name rest := by
  simp [lookup, h]

def get? (name : String) : Json → Option Json
  | object fields => lookup name fields
  | _ => none

def text? : Json → Option String
  | text value => some value
  | _ => none

end Json

end DeviceTrust
