import DeviceTrust.Json.Record
/-! # Durations

Whole seconds and nanoseconds below a second. A written duration may have more nanoseconds than that;
they carry into the seconds, which have 64 bits.
-/

namespace DeviceTrust

structure Duration where
  seconds : Nat
  nanoseconds : Nat
  seconds_lt : seconds < UInt64.size
  nanoseconds_lt : nanoseconds < 1000000000
  deriving DecidableEq

namespace Duration

def ofParts? (seconds nanoseconds : Nat) : Option Duration :=
  if h : seconds + nanoseconds / 1000000000 < UInt64.size then
    some ⟨seconds + nanoseconds / 1000000000, nanoseconds % 1000000000, h, Nat.mod_lt _ (by decide)⟩
  else none

theorem ofParts?_self (d : Duration) : ofParts? d.seconds d.nanoseconds = some d := by
  obtain ⟨s, n, hs, hn⟩ := d
  have h0 : n / 1000000000 = 0 := Nat.div_eq_of_lt hn
  have h1 : n % 1000000000 = n := Nat.mod_eq_of_lt hn
  simp only [ofParts?, h0, h1, Nat.add_zero, hs, dite_true]

def milliseconds (d : Duration) : Nat := d.seconds * 1000 + d.nanoseconds / 1000000

def secondsField : Field Nat := ⟨"secs", Codec.decodeBelow UInt64.size, none, none⟩

def nanosecondsField : Field Nat := ⟨"nanos", Codec.decodeBelow UInt32.size, none, none⟩

def reader : Record.Reader (Nat × Nat) := do
  let seconds ← Record.field secondsField
  let nanoseconds ← Record.field nanosecondsField
  return (seconds, nanoseconds)

/-- Only here an object is refused for a name it does not need. -/
def hasOtherNames : Json → Bool
  | .object fields => fields.any fun field => field.1 != "secs" && field.1 != "nanos"
  | _ => false

instance : Codec Duration where
  encode d := .object
    [("secs", Codec.encodeNat d.seconds), ("nanos", Codec.encodeNat d.nanoseconds)]
  decode value :=
    if hasOtherNames value then none
    else (Record.decode reader value).bind fun (seconds, nanoseconds) => ofParts? seconds nanoseconds

end Duration

end DeviceTrust
