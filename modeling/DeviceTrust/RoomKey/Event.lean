import DeviceTrust.Identifier.UserId
import DeviceTrust.Store.KeyStore
/-! # Room key events

A decrypted event that may carry a room key, and the contents of its two kinds: a key that its creator
sends, and a key that some device forwards.
-/

namespace DeviceTrust

structure RoomKeyEvent where
  eventType : String
  sender : UserId
  /-- The identity key of the device that encrypted the event. -/
  senderKey : Option String
  claimedKeys : Option (List (String × String))
  content : Json

namespace RoomKeyEvent

def directType : String := "m.room_key"

def forwardedType : String := "m.forwarded_room_key"

def claimed : Field (Option (List (String × String))) :=
  ⟨"keys_claimed", Codec.decodeOption Codec.decodeTexts, some none, none⟩

def reader : Record.Reader RoomKeyEvent := do
  let eventType ← Record.field (.required "event_type")
  let sender ← Record.field (.required "sender")
  let senderKey ← Record.field (.optional "sender_key")
  let claimedKeys ← Record.field claimed
  let content ← Record.field (.required "content")
  return ⟨eventType, sender, senderKey, claimedKeys, content⟩

instance : Codec RoomKeyEvent where
  encode event := .object
    [("event_type", Codec.encode event.eventType), ("sender", Codec.encode event.sender),
     ("sender_key", Codec.encodeOption Codec.encode event.senderKey),
     ("keys_claimed", Codec.encodeOption Codec.encodeTexts event.claimedKeys),
     ("content", event.content)]
  decode := Record.decode reader

end RoomKeyEvent

def sharedHistory : Field Bool := .defaulted "org.matrix.msc3061.shared_history" false

structure DirectContent where
  algorithm : Algorithm
  room : RoomId
  session : String
  sessionKey : String
  sharedHistory : Bool
  deriving DecidableEq

namespace DirectContent

def reader : Record.Reader DirectContent := do
  let algorithm ← Record.field (.required "algorithm")
  let room ← Record.field (.required "room_id")
  let session ← Record.field (.required "session_id")
  let sessionKey ← Record.field (.required "session_key")
  let shared ← Record.field DeviceTrust.sharedHistory
  return ⟨algorithm, room, session, sessionKey, shared⟩

def decode (content : Json) : Option DirectContent := Record.decode reader content

end DirectContent

structure ForwardedContent where
  algorithm : Algorithm
  room : RoomId
  senderKey : String
  session : String
  sessionKey : String
  claimedSigningKey : String
  chain : List String
  sharedHistory : Bool
  deriving DecidableEq

namespace ForwardedContent

def reader : Record.Reader ForwardedContent := do
  let algorithm ← Record.field (.required "algorithm")
  let room ← Record.field (.required "room_id")
  let senderKey ← Record.field (.required "sender_key")
  let session ← Record.field (.required "session_id")
  let sessionKey ← Record.field (.required "session_key")
  let claimedSigningKey ← Record.field (.required "sender_claimed_ed25519_key")
  let chain ← Record.field (.defaulted "forwarding_curve25519_key_chain" [])
  let shared ← Record.field DeviceTrust.sharedHistory
  return ⟨algorithm, room, senderKey, session, sessionKey, claimedSigningKey, chain, shared⟩

def decode (content : Json) : Option ForwardedContent := Record.decode reader content

def requestedKey (content : ForwardedContent) : RequestedKey :=
  ⟨content.room, content.algorithm, content.senderKey, content.session⟩

end ForwardedContent

end DeviceTrust
