import DeviceTrust.Verification.Operation
/-! # Samples

The users, the rooms and the engine that closed theorems are about. The users come in the order of their
names. Each theorem says itself which of them is the local user.
-/

namespace DeviceTrust

def UserId.alice : UserId := ⟨"@alice:localhost", by decide⟩

def UserId.bob : UserId := ⟨"@bob:localhost", by decide⟩

def UserId.carol : UserId := ⟨"@carol:localhost", by decide⟩

def RoomId.lobby : RoomId := ⟨"!lobby:localhost", by decide⟩

def RoomId.attic : RoomId := ⟨"!attic:localhost", by decide⟩

/-- A request that the user sent from a phone and nobody answered. -/
def RequestInfo.sentBy (user : UserId) (flow : String) : RequestInfo :=
  ⟨.toDevice flow, user, some "PHONE", false, none, none, false, none⟩

def FlowInfo.startedBy (user : UserId) (flow : String) : FlowInfo :=
  ⟨.toDevice flow, user, "PHONE", false⟩

/-- An engine that knows an unanswered request and short auth strings of every user under every flow id.
It accepts the strings, confirms by signatures alone, and refuses all else. -/
def obliging : Collaborators Unit := fun call world =>
  match call with
  | .findRequest user flow => (some (.sentBy user flow), world)
  | .findFlow user flow => (some (.sas (.startedBy user flow)), world)
  | .acceptSas .. => (some ⟨"1", "m.key.verification.accept", none, .object []⟩, world)
  | .confirm _ flow => (.ok (some ⟨[], some (.object [("flow", .text flow)])⟩), world)
  | .request .. => (.ok none, world)
  | .send _ | .upload _ => (.ok (), world)
  | .history .. => (.ok [], world)
  | .accept .. | .cancel .. | .startSas .. | .startQr .. | .scanQr .. | .generateQr .. => (none, world)

end DeviceTrust
