import DeviceTrust.RoomKey.Event
/-! # Room keys

A room key with all that is needed to import it, and how far it can be trusted.
-/

namespace DeviceTrust

structure RoomKeyInfo where
  algorithm : Algorithm
  session : String
  sessionKey : String
  room : RoomId
  /-- The identity key of the device that created the session. -/
  senderKey : String
  /-- The devices the key was forwarded through; `none` for a key that its creator sent. -/
  forwardingChain : Option (List String)
  claimedKeys : List (String × String)
  /-- A forwarded key is in the export format, which cannot advance a session. -/
  isExport : Bool
  sharedHistory : Bool
  deriving DecidableEq

namespace RoomKeyInfo

def ofDirect (content : DirectContent) (senderKey : String) (claimedKeys : List (String × String)) :
    RoomKeyInfo :=
  { algorithm := content.algorithm
    session := content.session
    sessionKey := content.sessionKey
    room := content.room
    senderKey := senderKey
    forwardingChain := none
    claimedKeys := claimedKeys
    isExport := false
    sharedHistory := content.sharedHistory }

/-- A forwarded key; the device that forwarded it ends the chain. -/
def ofForwarded (content : ForwardedContent) (forwarder : String) : RoomKeyInfo :=
  { algorithm := content.algorithm
    session := content.session
    sessionKey := content.sessionKey
    room := content.room
    senderKey := content.senderKey
    forwardingChain := some (content.chain ++ [forwarder])
    claimedKeys := [("ed25519", content.claimedSigningKey)]
    isExport := true
    sharedHistory := content.sharedHistory }

def claimed : Field (List (String × String)) := ⟨"keys_claimed", Codec.decodeTexts, none, none⟩

def reader : Record.Reader RoomKeyInfo := do
  let algorithm ← Record.field (.required "algorithm")
  let session ← Record.field (.required "session_id")
  let sessionKey ← Record.field (.required "session_key")
  let room ← Record.field (.required "room_id")
  let senderKey ← Record.field (.required "sender_key")
  let chain ← Record.field (.optional "forwarding_key_chain")
  let claimedKeys ← Record.field claimed
  let isExport ← Record.field (.required "export_format")
  let shared ← Record.field (.required "shared_history")
  return ⟨algorithm, session, sessionKey, room, senderKey, chain, claimedKeys, isExport, shared⟩

instance : Codec RoomKeyInfo where
  encode info := .object
    [("algorithm", Codec.encode info.algorithm), ("session_id", Codec.encode info.session),
     ("session_key", Codec.encode info.sessionKey), ("room_id", Codec.encode info.room),
     ("sender_key", Codec.encode info.senderKey),
     ("forwarding_key_chain", Codec.encodeOption Codec.encode info.forwardingChain),
     ("keys_claimed", Codec.encodeTexts info.claimedKeys),
     ("export_format", Codec.encode info.isExport),
     ("shared_history", Codec.encode info.sharedHistory)]
  decode := Record.decode reader

end RoomKeyInfo

inductive RoomKeyTrust where
  /-- From the creator of the session, or asked for and forwarded by a verified device of our own. -/
  | safe
  /-- Asked for, but forwarded by a device we cannot vouch for. -/
  | unvouched
  | unrequested
  deriving DecidableEq

namespace RoomKeyTrust

def name : RoomKeyTrust → String
  | safe => "Safe"
  | unvouched => "Unsafe"
  | unrequested => "Unrequested"

def ofName? (name : String) : Option RoomKeyTrust :=
  if name = "Safe" then some safe
  else if name = "Unsafe" then some unvouched
  else if name = "Unrequested" then some unrequested
  else none

instance : Codec RoomKeyTrust where
  encode trust := .text trust.name
  decode value := (Codec.choice value).bind ofName?

instance : Codec.Faithful RoomKeyTrust := ⟨fun trust => by cases trust <;> rfl⟩

end RoomKeyTrust

end DeviceTrust
