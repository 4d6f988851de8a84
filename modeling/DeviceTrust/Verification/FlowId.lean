import DeviceTrust.Identifier.EventId
import DeviceTrust.Identifier.RoomId
/-! # Flow ids

A flow over to-device messages is named by a transaction, a flow in a room by the event of its request.
To-device flows come first in the order, and in-room flows are ordered by room, then by event.
-/

namespace DeviceTrust

inductive FlowId where
  | toDevice (transaction : String)
  | inRoom (room : RoomId) (event : EventId)
  deriving DecidableEq

namespace FlowId

/-- The transaction or the event, by which tables of flows are keyed. -/
def text : FlowId → String
  | toDevice transaction => transaction
  | inRoom _ event => event.text

def room? : FlowId → Option RoomId
  | toDevice _ => none
  | inRoom room _ => some room

instance : Ord FlowId where
  compare
    | toDevice a, toDevice b => compare a b
    | toDevice _, inRoom _ _ => .lt
    | inRoom _ _, toDevice _ => .gt
    | inRoom r a, inRoom s b => (compare r s).then (compare a b)

def sort (flows : List FlowId) : List FlowId := flows.mergeSort fun a b => (compare a b).isLE

def distinct (flows : List FlowId) : List FlowId := flows.eraseDups

end FlowId

end DeviceTrust
