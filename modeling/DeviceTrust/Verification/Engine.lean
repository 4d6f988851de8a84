import DeviceTrust.History.Event
import DeviceTrust.Verification.Error
import DeviceTrust.Verification.FlowId
import DeviceTrust.Verification.Method
/-! # Calls of the collaborators

What the crypto engine knows and makes, and the calls by which verifications depend on it and on the
transport that fetches the history of a room. A call determines the type of its answer.
-/

namespace DeviceTrust

structure Message where
  id : String
  eventType : String
  /-- The room to send it to; `none` for a to-device message. -/
  room : Option RoomId
  body : Json

structure RequestInfo where
  flow : FlowId
  otherUser : UserId
  /-- Not known until the other side answers a request of ours. -/
  otherDevice : Option String
  weStarted : Bool
  theirMethods : Option (List Method)
  ourMethods : Option (List Method)
  isDone : Bool
  cancelInfo : Option CancelInfo
  deriving DecidableEq

structure FlowInfo where
  flow : FlowId
  otherUser : UserId
  otherDevice : String
  weStarted : Bool
  deriving DecidableEq

inductive FlowRecord where
  | sas (info : FlowInfo)
  | qr (info : FlowInfo)
  deriving DecidableEq

structure StartedFlow where
  info : FlowInfo
  message : Message

/-- A new request, with the message that makes it known unless that was sent before. -/
structure NewRequest where
  info : RequestInfo
  message : Option Message

/-- What a confirmation has to send: messages, and signatures of the verified keys. -/
structure Confirmation where
  messages : List Message
  signatures : Option Json

inductive Target where
  | device (user : UserId) (device : String)
  | ownDevices
  /-- A user in a room where the request was sent as that event. -/
  | room (user : UserId) (room : RoomId) (event : EventId)
  deriving DecidableEq

inductive Call where
  | findRequest (user : UserId) (flow : String)
  | findFlow (user : UserId) (flow : String)
  | accept (user : UserId) (flow : String) (methods : List Method)
  | cancel (user : UserId) (flow : String) (code : CancelCode)
  | acceptSas (user : UserId) (flow : String)
  | startSas (user : UserId) (flow : String)
  | startQr (user : UserId) (flow : String)
  | scanQr (user : UserId) (flow : String) (data : List UInt8)
  | generateQr (user : UserId) (flow : String)
  | confirm (user : UserId) (flow : String)
  | request (target : Target) (methods : List Method)
  | send (message : Message)
  | upload (signatures : Json)
  | history (room : RoomId) (event : EventId)

namespace Call

/-- The answers of a call. Where the engine can refuse, `none` is its refusal. -/
def Answer : Call → Type
  | findRequest .. => Option RequestInfo
  | findFlow .. => Option FlowRecord
  | accept .. => Option Message
  | cancel .. => Option Message
  | acceptSas .. => Option Message
  | startSas .. => Option StartedFlow
  | startQr .. => Option FlowInfo
  | scanQr .. => Option StartedFlow
  | generateQr .. => Option (List UInt8)
  | confirm .. => Except EngineError (Option Confirmation)
  | request .. => Except EngineError (Option NewRequest)
  | send .. => Except EngineError Unit
  | upload .. => Except EngineError Unit
  | history .. => Except TransportError (List HistoryEvent)

end Call

end DeviceTrust
