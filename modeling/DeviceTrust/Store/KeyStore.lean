import DeviceTrust.Identifier.RoomId
import DeviceTrust.Trust.Device
/-! # Key stores

What a request for a room key names, the requests that were made, and the two lookups that the
classification of room keys is based on.
-/

namespace DeviceTrust

/-- The token of an encryption algorithm. Tokens that are not known here are kept. -/
structure Algorithm where
  token : String
  deriving DecidableEq

namespace Algorithm

def megolm : Algorithm := ⟨"m.megolm.v1.aes-sha2"⟩

instance : Codec Algorithm where
  encode algorithm := .text algorithm.token
  decode value := value.text?.map Algorithm.mk

instance : Codec.Faithful Algorithm := ⟨fun _ => rfl⟩

end Algorithm

structure RequestedKey where
  room : RoomId
  algorithm : Algorithm
  /-- The identity key of the device that created the session. -/
  senderKey : String
  session : String
  deriving DecidableEq

namespace RequestedKey

def indexText (key : RequestedKey) : String :=
  key.room.text ++ key.algorithm.token ++ key.senderKey ++ key.session

def reader : Record.Reader RequestedKey := do
  let room ← Record.field (.required "room_id")
  let algorithm ← Record.field (.required "algorithm")
  let senderKey ← Record.field (.required "sender_key")
  let session ← Record.field (.required "session_id")
  return ⟨room, algorithm, senderKey, session⟩

instance : Codec RequestedKey where
  encode key := .object
    [("room_id", Codec.encode key.room), ("algorithm", Codec.encode key.algorithm),
     ("sender_key", Codec.encode key.senderKey), ("session_id", Codec.encode key.session)]
  decode := Record.decode reader

end RequestedKey

structure KeyRequest where
  id : String
  key : RequestedKey
  sentOut : Bool
  deriving DecidableEq

namespace KeyRequest

def reader : Record.Reader KeyRequest := do
  let id ← Record.field (.required "request_id")
  let key ← Record.field (.required "info")
  let sentOut ← Record.field (.required "sent_out")
  return ⟨id, key, sentOut⟩

instance : Codec KeyRequest where
  encode request := .object
    [("request_id", Codec.encode request.id), ("info", Codec.encode request.key),
     ("sent_out", Codec.encode request.sentOut)]
  decode := Record.decode reader

end KeyRequest

inductive StoreError where
  | backend (detail : String)
  deriving DecidableEq

def StoreError.message : StoreError → String
  | backend detail => "the key store failed: " ++ detail

structure KeyStore where
  request : RequestedKey → Except StoreError (Option KeyRequest)
  deviceByKey : String → Except StoreError (Option Device)

end DeviceTrust
