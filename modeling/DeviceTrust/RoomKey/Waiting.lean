import DeviceTrust.RoomKey.Info
/-! # Waiting keys

Forwarded keys that nobody asked for wait until their sender invites us to their room. A pass over the
invites accepts the keys that arrived within the window of an invite from their own sender, and clears
every room that has an invite. Time is the reading of a clock in milliseconds; readings need not grow.
-/

namespace DeviceTrust

structure WaitingKey where
  info : RoomKeyInfo
  sender : UserId
  receivedAt : Nat
  deriving DecidableEq

structure Invite where
  room : RoomId
  sender : UserId
  receivedAt : Nat
  deriving DecidableEq

/-- The latest reading of a clock, the last number of 53 bits; there the clock stands still. -/
def lastInstant : Nat := 9007199254740991

def elapsed (first second : Nat) : Nat := (first - second) + (second - first)

/-- Keys and invites, each in the order of arrival. -/
structure WaitingRoom where
  keys : List WaitingKey := []
  invites : List Invite := []
  deriving DecidableEq

namespace WaitingRoom

def isWithin (window first second : Nat) : Bool := elapsed first second < window

def accepts (window : Nat) (invite : Invite) (key : WaitingKey) : Bool :=
  key.sender == invite.sender && isWithin window key.receivedAt invite.receivedAt

/-- Let each invite in turn take all the keys of its room out, and accept its own. The keys left over
come second. -/
def takeOut (window : Nat) : List Invite → List WaitingKey → List RoomKeyInfo × List WaitingKey
  | [], keys => ([], keys)
  | invite :: rest, keys =>
    let ofRoom := keys.filter (·.info.room == invite.room)
    let others := keys.filter (·.info.room != invite.room)
    let (accepted, left) := takeOut window rest others
    ((ofRoom.filter (accepts window invite)).map (·.info) ++ accepted, left)

/-- A pass at clock reading `now`: drop old invites, then take out the keys of all rooms with one. -/
def process (window : Nat) (waiting : WaitingRoom) (now : Nat) : List RoomKeyInfo × WaitingRoom :=
  let invites := waiting.invites.filter fun invite => isWithin window invite.receivedAt now
  let (accepted, keys) := takeOut window invites waiting.keys
  (accepted, ⟨keys, invites⟩)

def invite (waiting : WaitingRoom) (room : RoomId) (sender : UserId) (now : Nat) : WaitingRoom :=
  { waiting with invites := waiting.invites ++ [⟨room, sender, now⟩] }

def ownsKey (sender : UserId) (senderKey : String) (devices : List Device) : Bool :=
  devices.any fun device => device.owner == sender && device.hasIdentityKey senderKey

/-- Hold on to a key if the downloaded devices show that its sender owns `senderKey`, then make a
pass. The two clock readings are those of the arrival and of the pass. -/
def add (window : Nat) (waiting : WaitingRoom) (info : RoomKeyInfo) (sender : UserId)
    (senderKey : String) (download : Except StoreError (List Device)) (arrival now : Nat) :
    List RoomKeyInfo × WaitingRoom :=
  match download with
  | .error _ => ([], waiting)
  | .ok devices =>
    if ownsKey sender senderKey devices then
      process window { waiting with keys := waiting.keys ++ [⟨info, sender, arrival⟩] } now
    else ([], waiting)

inductive Event where
  | add (info : RoomKeyInfo) (sender : UserId) (senderKey : String)
      (download : Except StoreError (List Device)) (arrival now : Nat)
  | invite (room : RoomId) (sender : UserId) (now : Nat)
  | process (now : Nat)
  | close

def step (window : Nat) (waiting : WaitingRoom) : Event → List RoomKeyInfo × WaitingRoom
  | .add info sender senderKey download arrival now =>
    waiting.add window info sender senderKey download arrival now
  | .invite room sender now => ([], waiting.invite room sender now)
  | .process now => waiting.process window now
  | .close => ([], {})

def run (window : Nat) (waiting : WaitingRoom) : List Event → List (List RoomKeyInfo) × WaitingRoom
  | [] => ([], waiting)
  | event :: rest =>
    let (accepted, next) := waiting.step window event
    let (later, last) := next.run window rest
    (accepted :: later, last)

end WaitingRoom

end DeviceTrust
