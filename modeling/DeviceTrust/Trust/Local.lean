import DeviceTrust.Json.Codec
/-! # Local trust

What we decided about a device ourselves: the stored flag, and the status that a client shows for it.
-/

namespace DeviceTrust

inductive LocalTrust where
  | verified
  | blackListed
  | ignored
  | unset
  deriving DecidableEq

namespace LocalTrust

def number : LocalTrust → Nat
  | verified => 0
  | blackListed => 1
  | ignored => 2
  | unset => 3

/-- The flag with a stored number; every unknown number is an unset flag. -/
def ofNumber (number : Int) : LocalTrust :=
  if number = 0 then verified
  else if number = 1 then blackListed
  else if number = 2 then ignored
  else unset

theorem ofNumber_number (trust : LocalTrust) : ofNumber trust.number = trust := by
  cases trust <;> rfl

def name : LocalTrust → String
  | verified => "Verified"
  | blackListed => "BlackListed"
  | ignored => "Ignored"
  | unset => "Unset"

def ofName? (name : String) : Option LocalTrust :=
  if name = "Verified" then some verified
  else if name = "BlackListed" then some blackListed
  else if name = "Ignored" then some ignored
  else if name = "Unset" then some unset
  else none

instance : Codec LocalTrust where
  encode trust := .text trust.name
  decode value := (Codec.choice value).bind ofName?

instance : Codec.Faithful LocalTrust := ⟨fun trust => by cases trust <;> rfl⟩

end LocalTrust

inductive LocalStatus where
  | unset
  | verified
  /-- Looked at and not trusted, yet not blocked. -/
  | unverified
  | blocked
  deriving DecidableEq

namespace LocalStatus

def ofTrust : LocalTrust → LocalStatus
  | .verified => verified
  | .blackListed => blocked
  | .ignored => unverified
  | .unset => unset

def name : LocalStatus → String
  | unset => "Unset"
  | verified => "Verified"
  | unverified => "Unverified"
  | blocked => "Blocked"

def ofName? (name : String) : Option LocalStatus :=
  if name = "Unset" then some unset
  else if name = "Verified" then some verified
  else if name = "Unverified" then some unverified
  else if name = "Blocked" then some blocked
  else none

instance : Codec LocalStatus where
  encode status := .text status.name
  decode value := (Codec.choice value).bind ofName?

instance : Codec.Faithful LocalStatus := ⟨fun status => by cases status <;> rfl⟩

end LocalStatus

end DeviceTrust
