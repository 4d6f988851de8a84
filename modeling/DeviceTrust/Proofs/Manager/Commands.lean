import DeviceTrust.Manager.Operations
import DeviceTrust.Proofs.Manager.Changes
import DeviceTrust.Proofs.Verification.Calls
/-! # Runs of a manager

A client uses its manager by one operation after the other. Each operation comes to some changes, and so
does every run. The engine has its say in this only by the requests that it knows or makes.
-/

namespace DeviceTrust

open Operation

namespace Manager

def known? (m : Manager) (flow : String) : Option (Handle Request) :=
  m.tracked[flow]? <|> m.finished[flow]?

inductive Command where
  | requestToDevice (user : UserId) (devices : List String) (methods : Option (List Method))
  | requestInRoom (user : UserId) (room : RoomId) (event : EventId) (methods : Option (List Method))
  | incomingRequest (sender : UserId) (flow : String)
  | incomingFlow (sender : UserId) (flow : String)
  | beginSas (request : Request)
  | qrFlow (flow : String)
  | removeQr (flow : String)
  | keyVerification (sender : UserId) (event : EventId) (room : RoomId)
  | requestUpdated (flow : String) (update : RequestUpdate)
  | sasUpdated (flow : String) (update : SasUpdate)
  | qrUpdated (flow : String) (update : QrUpdate)
  | startSas (request : Request)
  | startQr (request : Request)
  | scan (handle : Handle Flow) (qr : QrCode) (data : List UInt8)

def Command.operation : Command → Operation Manager Unit
  | .requestToDevice user devices methods => discard (Manager.requestToDevice user devices methods)
  | .requestInRoom user room event methods => discard (Manager.requestInRoom user room event methods)
  | .incomingRequest sender flow => discard (Manager.incomingRequest sender flow)
  | .incomingFlow sender flow => discard (Manager.incomingFlow sender flow)
  | .beginSas request => discard (Manager.beginSas request)
  | .qrFlow flow => discard (Manager.qrFlow flow)
  | .removeQr flow => Manager.removeQr flow
  | .keyVerification sender event room => discard (Manager.keyVerification sender event room)
  | .requestUpdated flow update => discard (Manager.requestUpdated flow update)
  | .sasUpdated flow update => discard (Manager.sasUpdated flow update)
  | .qrUpdated flow update => discard (Manager.qrUpdated flow update)
  | .startSas request => discard (Manager.startSas request)
  | .startQr request => discard (Manager.startQr request)
  | .scan handle qr data => Manager.scan handle qr data

def perform : List Command → Operation Manager Unit
  | [] => done ()
  | command :: rest => command.operation >>= fun _ => perform rest

theorem perform_append (before after : List Command) :
    perform (before ++ after) = perform before >>= fun _ => perform after := by
  induction before with
  | nil => rfl
  | cons command rest ih => rw [List.cons_append, perform, perform, ih, bind_assoc]

variable {β : Type} {m : Manager} {flow : String}
  {assumes : Manager → (call : Call) → call.Answer → Prop}

theorem ensures_knownRequest_bind {k : Option (Handle Request) → Operation Manager β}
    {post : β → Manager → Prop} :
    (knownRequest flow >>= k).Ensures assumes post m ↔
      (k (m.known? flow)).Ensures assumes post m := by
  rw [knownRequest, bind_assoc, ensures_read_bind, known?]
  cases m.tracked[flow]? <;> rfl

end Manager

end DeviceTrust
