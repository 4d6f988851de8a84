import DeviceTrust.Json.Record
/-! # Trust summaries

How many entries of a population are trusted. A summary never counts more trusted entries than
entries: a total that is too small is raised.
-/

namespace DeviceTrust

structure TrustSummary where
  trusted : Nat
  total : Nat
  trusted_le_total : trusted ≤ total
  deriving DecidableEq

namespace TrustSummary

def new (trusted total : Nat) : TrustSummary := ⟨trusted, max total trusted, Nat.le_max_right ..⟩

def ofFlags (flags : List Bool) : TrustSummary := new (flags.count true) flags.length

def allTrusted (summary : TrustSummary) : Bool := summary.trusted == summary.total

/-- Counts have 64 bits. -/
def count (name : String) : Field Nat := ⟨name, Codec.decodeBelow UInt64.size, none, none⟩

def reader : Record.Reader TrustSummary := do
  let trusted ← Record.field (count "trusted_count")
  let total ← Record.field (count "total_count")
  return new trusted total

instance : Codec TrustSummary where
  encode summary := .object
    [("trusted_count", Codec.encodeNat summary.trusted),
     ("total_count", Codec.encodeNat summary.total)]
  decode := Record.decode reader

end TrustSummary

structure PopulationSummary where
  users : TrustSummary
  devices : TrustSummary
  deriving DecidableEq

namespace PopulationSummary

def reader : Record.Reader PopulationSummary := do
  let users ← Record.field (.required "users_trust")
  let devices ← Record.field (.required "devices_trust")
  return ⟨users, devices⟩

instance : Codec PopulationSummary where
  encode summary := .object
    [("users_trust", Codec.encode summary.users), ("devices_trust", Codec.encode summary.devices)]
  decode := Record.decode reader

end PopulationSummary

end DeviceTrust
