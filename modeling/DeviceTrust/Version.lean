import DeviceTrust.Duration
import DeviceTrust.Verification.Method
/-! # Version and settings

What a client of the library is told of it, and what it can choose. Every setting has a default, and a
record may leave out any of them.
-/

namespace DeviceTrust

def version : String := "0.13.0"

structure Settings where
  /-- The methods to advertise when a request is accepted without naming any. -/
  supportedMethods : List Method
  /-- Order the events of an archived flow by their timestamps before they are folded. -/
  sortsByTimestamp : Bool
  /-- Accept an incoming flow of short auth strings that belongs to a tracked request. -/
  acceptsKnownSas : Bool
  /-- How far apart an unrequested key and the invite that justifies it may be. -/
  keyWindow : Duration
  deriving DecidableEq

namespace Settings

def tenMinutes : Duration := ⟨600, 0, by decide, by decide⟩

def default : Settings := ⟨[.sas, .qrCodeShow, .reciprocate], true, true, tenMinutes⟩

def reader : Record.Reader Settings := do
  let methods ← Record.field (.defaulted "supported_methods" default.supportedMethods)
  let sorts ← Record.field (.defaulted "sort_relations_by_timestamp" default.sortsByTimestamp)
  let accepts ← Record.field (.defaulted "auto_accept_sas_for_known_requests" default.acceptsKnownSas)
  let window ← Record.field (.defaulted "unrequested_key_window" default.keyWindow)
  return ⟨methods, sorts, accepts, window⟩

instance : Codec Settings where
  encode s := .object
    [("supported_methods", Codec.encode s.supportedMethods),
     ("sort_relations_by_timestamp", Codec.encode s.sortsByTimestamp),
     ("auto_accept_sas_for_known_requests", Codec.encode s.acceptsKnownSas),
     ("unrequested_key_window", Codec.encode s.keyWindow)]
  decode := Record.decode reader

instance : Inhabited Settings := ⟨default⟩

end Settings

end DeviceTrust
