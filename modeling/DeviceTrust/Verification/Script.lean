import DeviceTrust.Verification.Operation
/-! # Scripted collaborators

Collaborators that answer from a script: tables of what the engine knows, the operations it refuses or
fails, and the history the transport fetches. With them every operation can be run from start to end, and
a whole session of the manager be replayed.
-/

namespace DeviceTrust

inductive Refusal where
  | accept
  | cancel
  | acceptSas
  | startSas
  | startQr
  | scanQr
  | generateQr
  | confirm
  | request
  deriving DecidableEq

structure Script where
  ownUser : UserId
  requests : List (String × RequestInfo) := []
  flows : List (String × FlowRecord) := []
  refused : List Refusal := []
  /-- The room that messages are for, instead of devices. -/
  room : Option RoomId := none
  /-- How sending fails, after so many messages that are sent. -/
  sendFailure : Option (EngineError × Nat) := none
  uploadFailure : Option EngineError := none
  confirmFailure : Option EngineError := none
  requestFailure : Option EngineError := none
  confirmTypes : List String := ["m.key.verification.mac"]
  confirmSigns : Bool := true
  /-- Stands in for what is known of a new request. -/
  requestInfo : Option RequestInfo := none
  flowInfo : Option FlowInfo := none
  history : List HistoryEvent := []
  historyFailure : Option TransportError := none
  made : Nat := 0

namespace Script

def refuses (s : Script) (refusal : Refusal) : Bool := s.refused.contains refusal

/-- Make a message. They are numbered in the order in which they are made. -/
def message (s : Script) (eventType : String) (body : Json) : Message × Script :=
  (⟨"req-" ++ toString (s.made + 1), eventType, s.room, body⟩, { s with made := s.made + 1 })

def make {α : Type} (s : Script) (refusal : Refusal) (eventType : String) (body : Json)
    (wrap : Message → α) : Option α × Script :=
  if s.refuses refusal then (none, s)
  else (some (wrap (s.message eventType body).1), (s.message eventType body).2)

def methodsBody (methods : List Method) : Json := .object [("methods", Codec.encode methods)]

def flowFor (s : Script) (user : UserId) (flow device : String) (weStarted : Bool) : FlowInfo :=
  s.flowInfo.getD ⟨.toDevice flow, user, device, weStarted⟩

def messages (s : Script) : List String → List Message × Script
  | [] => ([], s)
  | eventType :: rest =>
    let (message, s) := s.message eventType (.object [])
    let (others, s) := s.messages rest
    (message :: others, s)

def confirmation (s : Script) (flow : String) : Confirmation × Script :=
  let (messages, s) := s.messages s.confirmTypes
  (⟨messages, if s.confirmSigns then some (.object [("flow", .text flow)]) else none⟩, s)

/-- A new request of ours. A to-device request gets the id of its message as its flow id. -/
def newRequest (s : Script) (target : Target) (methods : List Method) : NewRequest × Script :=
  let (message, made) := s.message "m.key.verification.request" (methodsBody methods)
  let info (flow : FlowId) (user : UserId) (device : Option String) : RequestInfo :=
    s.requestInfo.getD ⟨flow, user, device, true, none, some methods, false, none⟩
  match target with
  | .device user device => (⟨info (.toDevice message.id) user (some device), some message⟩, made)
  | .ownDevices => (⟨info (.toDevice message.id) s.ownUser none, some message⟩, made)
  | .room user room event => (⟨info (.inRoom room event) user none, none⟩, s)

def bytesOf (text : String) : List UInt8 := text.toUTF8.data.toList

def lookup? {α : Type} (key : String) (table : List (String × α)) : Option α :=
  (table.find? (·.1 == key)).map (·.2)

/-- The code of a flow is its flow id; anything else that is scanned is refused. -/
def respond : Collaborators Script := fun call s =>
  match call with
  | .findRequest _ flow => (lookup? flow s.requests, s)
  | .findFlow _ flow => (lookup? flow s.flows, s)
  | .accept _ _ methods => s.make .accept "m.key.verification.ready" (methodsBody methods) id
  | .cancel _ _ code =>
    s.make .cancel "m.key.verification.cancel" (.object [("code", .text code.token)]) id
  | .acceptSas .. => s.make .acceptSas "m.key.verification.accept" (.object []) id
  | .startSas user flow =>
    s.make .startSas "m.key.verification.start" (.object [("method", Codec.encode Method.sas)])
      (StartedFlow.mk (s.flowFor user flow "STARTED" true))
  | .startQr user flow =>
    (if s.refuses .startQr then none else some (s.flowFor user flow "STARTED" true), s)
  | .scanQr user flow data =>
    if data = bytesOf flow then
      s.make .scanQr "m.key.verification.start"
        (.object [("method", Codec.encode Method.reciprocate)])
        (StartedFlow.mk (s.flowFor user flow "SCANNED" false))
    else (none, s)
  | .generateQr _ flow => (if s.refuses .generateQr then none else some (bytesOf flow), s)
  | .confirm _ flow =>
    match s.confirmFailure with
    | some error => (.error error, s)
    | none =>
      if s.refuses .confirm then (.ok none, s)
      else (.ok (some (s.confirmation flow).1), (s.confirmation flow).2)
  | .request target methods =>
    match s.requestFailure with
    | some error => (.error error, s)
    | none =>
      if s.refuses .request then (.ok none, s)
      else (.ok (some (s.newRequest target methods).1), (s.newRequest target methods).2)
  | .send _ =>
    match s.sendFailure with
    | none => (.ok (), s)
    | some (error, 0) => (.error error, s)
    | some (error, more + 1) => (.ok (), { s with sendFailure := some (error, more) })
  | .upload _ =>
    match s.uploadFailure with
    | none => (.ok (), s)
    | some error => (.error error, s)
  | .history .. =>
    match s.historyFailure with
    | some error => (.error error, s)
    | none => (.ok s.history, s)

end Script

end DeviceTrust
