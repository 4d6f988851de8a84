import DeviceTrust.RoomKey.Info
import DeviceTrust.Store.KeyStore
/-! # Classification of room keys

A key from the creator of its session is safe. A forwarded key is safe if we asked for it and one of
our own verified devices forwarded it. An event that cannot be classified gives no key at all.
-/

namespace DeviceTrust

inductive RoomKeyError where
  | unknownEventType (eventType : String)
  | missingSenderKey
  | missingClaimedKeys
  | invalidContent
  | store (error : StoreError)
  deriving DecidableEq

def RoomKeyError.message : RoomKeyError → String
  | unknownEventType eventType => "the event type " ++ eventType ++ " doesn't carry a room key"
  | missingSenderKey => "the event is missing the sender key of the sending device"
  | missingClaimedKeys => "the event is missing the claimed keys of the sending device"
  | invalidContent => "the room key content is invalid"
  | store error => error.message

structure ClassifiedKey where
  trust : RoomKeyTrust
  info : RoomKeyInfo
  deriving DecidableEq

structure KeyClassifier where
  ownUser : UserId
  store : KeyStore

namespace KeyClassifier

def required {α : Type} (error : RoomKeyError) : Option α → Except RoomKeyError α
  | some value => .ok value
  | none => .error error

def lookup {α : Type} : Except StoreError α → Except RoomKeyError α
  | .ok value => .ok value
  | .error error => .error (.store error)

def classifyDirect (event : RoomKeyEvent) : Except RoomKeyError ClassifiedKey := do
  let content ← required .invalidContent (DirectContent.decode event.content)
  let senderKey ← required .missingSenderKey event.senderKey
  let claimedKeys ← required .missingClaimedKeys event.claimedKeys
  return ⟨.safe, .ofDirect content senderKey claimedKeys⟩

/-- A device of our own that we verified locally. -/
def vouchesFor (classifier : KeyClassifier) : Option Device → Bool
  | some device => device.owner == classifier.ownUser && device.isLocallyTrusted
  | none => false

def forwardedTrust (classifier : KeyClassifier) (content : ForwardedContent) (forwarder : String) :
    Except RoomKeyError RoomKeyTrust := do
  match ← lookup (classifier.store.request content.requestedKey) with
  | none => return .unrequested
  | some _ =>
    let device ← lookup (classifier.store.deviceByKey forwarder)
    return if classifier.vouchesFor device then .safe else .unvouched

def classifyForwarded (classifier : KeyClassifier) (event : RoomKeyEvent) :
    Except RoomKeyError ClassifiedKey := do
  let forwarder ← required .missingSenderKey event.senderKey
  let content ← required .invalidContent (ForwardedContent.decode event.content)
  let trust ← classifier.forwardedTrust content forwarder
  return ⟨trust, .ofForwarded content forwarder⟩

def classify (classifier : KeyClassifier) (event : RoomKeyEvent) :
    Except RoomKeyError ClassifiedKey :=
  if event.eventType = RoomKeyEvent.directType then classifyDirect event
  else if event.eventType = RoomKeyEvent.forwardedType then classifier.classifyForwarded event
  else .error (.unknownEventType event.eventType)

def roomKey? (classifier : KeyClassifier) (event : RoomKeyEvent) : Option ClassifiedKey :=
  (classifier.classify event).toOption

end KeyClassifier

end DeviceTrust
