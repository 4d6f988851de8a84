import DeviceTrust.Proofs.RoomKey.Content
import DeviceTrust.RoomKey.Classification
/-! # What makes an event give a room key

An event gives a key exactly if it is one of two kinds with everything the kind calls for, and if the
store answers every question that is put to it. No fault is filled in by a guess.
-/

namespace DeviceTrust

namespace RoomKeyEvent

structure Sends (event : RoomKeyEvent) (content : DirectContent) (senderKey : String)
    (claimedKeys : List (String × String)) : Prop where
  eventType : event.eventType = "m.room_key"
  content : content.WrittenAs event.content
  senderKey : event.senderKey = some senderKey
  claimedKeys : event.claimedKeys = some claimedKeys

structure Forwards (event : RoomKeyEvent) (content : ForwardedContent) (forwarder : String) :
    Prop where
  eventType : event.eventType = "m.forwarded_room_key"
  content : content.WrittenAs event.content
  forwarder : event.senderKey = some forwarder

end RoomKeyEvent

namespace KeyClassifier

variable {α : Type} {classifier : KeyClassifier} {event : RoomKeyEvent} {result : ClassifiedKey}

theorem required_eq_ok_iff {error : RoomKeyError} {value : Option α} {a : α} :
    required error value = .ok a ↔ value = some a := by
  cases value <;> simp [required]

theorem lookup_eq_ok_iff {answer : Except StoreError α} {a : α} :
    lookup answer = .ok a ↔ answer = .ok a := by
  cases answer <;> simp [lookup]

theorem bind_eq_ok_iff {β : Type} {attempt : Except RoomKeyError α}
    {next : α → Except RoomKeyError β} {b : β} :
    (attempt >>= next) = .ok b ↔ ∃ a, attempt = .ok a ∧ next a = .ok b := by
  cases attempt with
  | error error => exact iff_of_false nofun nofun
  | ok a =>
    constructor
    · intro h
      exact ⟨a, rfl, h⟩
    · rintro ⟨_, ⟨⟩, h⟩
      exact h

theorem roomKey?_eq_some_iff_classify : classifier.roomKey? event = some result ↔
    classifier.classify event = .ok result := by
  rw [roomKey?]
  cases classifier.classify event <;> simp [Except.toOption]

theorem classifyDirect_eq_ok_iff : classifyDirect event = .ok result ↔
    ∃ content senderKey claimedKeys, content.WrittenAs event.content ∧
      event.senderKey = some senderKey ∧ event.claimedKeys = some claimedKeys ∧
      result = ⟨.safe, .ofDirect content senderKey claimedKeys⟩ := by
  simp only [classifyDirect, bind_eq_ok_iff, required_eq_ok_iff, DirectContent.decode_eq_some_iff]
  constructor
  · rintro ⟨content, hContent, senderKey, hSender, claimedKeys, hClaimed, h⟩
    cases h
    exact ⟨content, senderKey, claimedKeys, hContent, hSender, hClaimed, rfl⟩
  · rintro ⟨content, senderKey, claimedKeys, hContent, hSender, hClaimed, rfl⟩
    exact ⟨content, hContent, senderKey, hSender, claimedKeys, hClaimed, rfl⟩

theorem vouchesFor_iff {found : Option Device} : classifier.vouchesFor found ↔
    ∃ device, found = some device ∧ device.owner = classifier.ownUser ∧
      device.localTrust = .verified := by
  cases found with
  | none => simp [vouchesFor]
  | some device => simp [vouchesFor, Device.isLocallyTrusted]

theorem forwardedTrust_eq_ok_iff {content : ForwardedContent} {forwarder : String}
    {trust : RoomKeyTrust} : classifier.forwardedTrust content forwarder = .ok trust ↔
      (classifier.store.request content.requestedKey = .ok none ∧ trust = .unrequested) ∨
      ∃ request found, classifier.store.request content.requestedKey = .ok (some request) ∧
        classifier.store.deviceByKey forwarder = .ok found ∧
        trust = if classifier.vouchesFor found then .safe else .unvouched := by
  rw [forwardedTrust, bind_eq_ok_iff]
  constructor
  · rintro ⟨_ | request, hRequest, h⟩
    · cases h
      exact .inl ⟨lookup_eq_ok_iff.mp hRequest, rfl⟩
    · obtain ⟨found, hFound, h⟩ := bind_eq_ok_iff.mp h
      cases h
      exact .inr ⟨request, found, lookup_eq_ok_iff.mp hRequest, lookup_eq_ok_iff.mp hFound, rfl⟩
  · rintro (⟨hRequest, rfl⟩ | ⟨request, found, hRequest, hFound, rfl⟩)
    · exact ⟨none, lookup_eq_ok_iff.mpr hRequest, rfl⟩
    · exact ⟨some request, lookup_eq_ok_iff.mpr hRequest,
        bind_eq_ok_iff.mpr ⟨found, lookup_eq_ok_iff.mpr hFound, rfl⟩⟩

theorem classifyForwarded_eq_ok_iff : classifier.classifyForwarded event = .ok result ↔
    ∃ content forwarder trust, content.WrittenAs event.content ∧
      event.senderKey = some forwarder ∧ classifier.forwardedTrust content forwarder = .ok trust ∧
      result = ⟨trust, .ofForwarded content forwarder⟩ := by
  simp only [classifyForwarded, bind_eq_ok_iff, required_eq_ok_iff,
    ForwardedContent.decode_eq_some_iff]
  constructor
  · rintro ⟨forwarder, hForwarder, content, hContent, trust, hTrust, h⟩
    cases h
    exact ⟨content, forwarder, trust, hContent, hForwarder, hTrust, rfl⟩
  · rintro ⟨content, forwarder, trust, hContent, hForwarder, hTrust, rfl⟩
    exact ⟨forwarder, hForwarder, content, hContent, trust, hTrust, rfl⟩

theorem roomKey?_eq_some_iff : classifier.roomKey? event = some result ↔
    (∃ content senderKey claimedKeys, event.Sends content senderKey claimedKeys ∧
      result = ⟨.safe, .ofDirect content senderKey claimedKeys⟩) ∨
    ∃ content forwarder trust, event.Forwards content forwarder ∧
      classifier.forwardedTrust content forwarder = .ok trust ∧
      result = ⟨trust, .ofForwarded content forwarder⟩ := by
  rw [roomKey?_eq_some_iff_classify, classify]
  constructor
  · intro h
    split at h
    · next hType =>
      obtain ⟨content, senderKey, claimedKeys, hContent, hSender, hClaimed, rfl⟩ :=
        classifyDirect_eq_ok_iff.mp h
      exact .inl ⟨content, senderKey, claimedKeys, ⟨hType, hContent, hSender, hClaimed⟩, rfl⟩
    · split at h
      · next hType =>
        obtain ⟨content, forwarder, trust, hContent, hForwarder, hTrust, rfl⟩ :=
          classifyForwarded_eq_ok_iff.mp h
        exact .inr ⟨content, forwarder, trust, ⟨hType, hContent, hForwarder⟩, hTrust, rfl⟩
      · cases h
  · rintro (⟨content, senderKey, claimedKeys, hSends, rfl⟩ |
      ⟨content, forwarder, trust, hForwards, hTrust, rfl⟩)
    · have hType : event.eventType = RoomKeyEvent.directType := hSends.eventType
      rw [if_pos hType]
      exact classifyDirect_eq_ok_iff.mpr ⟨content, senderKey, claimedKeys, hSends.content,
        hSends.senderKey, hSends.claimedKeys, rfl⟩
    · have hType : event.eventType = RoomKeyEvent.forwardedType := hForwards.eventType
      have hOther : event.eventType ≠ RoomKeyEvent.directType := by
        rw [hType]
        decide
      rw [if_neg hOther, if_pos hType]
      exact classifyForwarded_eq_ok_iff.mpr ⟨content, forwarder, trust, hForwards.content,
        hForwards.forwarder, hTrust, rfl⟩

theorem roomKey?_of_forwards {content : ForwardedContent} {forwarder : String}
    (h : event.Forwards content forwarder) : classifier.roomKey? event = some result ↔
      ∃ trust, classifier.forwardedTrust content forwarder = .ok trust ∧
        result = ⟨trust, .ofForwarded content forwarder⟩ := by
  rw [roomKey?_eq_some_iff]
  constructor
  · rintro (⟨_, _, _, hSends, _⟩ | ⟨other, _, trust, hOther, hTrust, rfl⟩)
    · exact absurd (h.eventType.symm.trans hSends.eventType) (by decide)
    · cases h.content.unique hOther.content
      cases h.forwarder.symm.trans hOther.forwarder
      exact ⟨trust, hTrust, rfl⟩
  · rintro ⟨trust, hTrust, rfl⟩
    exact .inr ⟨content, forwarder, trust, h, hTrust, rfl⟩

/-- The store says what was asked for and, where something was, which device forwarded it. -/
def Answers (store : KeyStore) (content : ForwardedContent) (forwarder : String)
    (answer : Option KeyRequest) : Prop :=
  store.request ⟨content.room, content.algorithm, content.senderKey, content.session⟩ = .ok answer ∧
    (answer.isSome → ∃ found, store.deviceByKey forwarder = .ok found)

def KnowsOwnVerified (classifier : KeyClassifier) (identityKey : String) : Prop :=
  ∃ device, classifier.store.deviceByKey identityKey = .ok (some device) ∧
    device.owner = classifier.ownUser ∧ device.localTrust = .verified

theorem exists_forwardedTrust_iff {content : ForwardedContent} {forwarder : String} :
    (∃ trust, classifier.forwardedTrust content forwarder = .ok trust) ↔
      ∃ answer, Answers classifier.store content forwarder answer := by
  simp only [forwardedTrust_eq_ok_iff]
  constructor
  · rintro ⟨_, ⟨hRequest, -⟩ | ⟨request, found, hRequest, hFound, -⟩⟩
    · exact ⟨none, hRequest, nofun⟩
    · exact ⟨some request, hRequest, fun _ => ⟨found, hFound⟩⟩
  · rintro ⟨_ | request, hRequest, hFound⟩
    · exact ⟨_, .inl ⟨hRequest, rfl⟩⟩
    · obtain ⟨found, hFound⟩ := hFound rfl
      exact ⟨_, .inr ⟨request, found, hRequest, hFound, rfl⟩⟩

theorem vouchesFor_iff_knowsOwnVerified {forwarder : String} {found : Option Device}
    (h : classifier.store.deviceByKey forwarder = .ok found) :
    classifier.vouchesFor found ↔ classifier.KnowsOwnVerified forwarder := by
  rw [vouchesFor_iff, KnowsOwnVerified, h]
  simp only [Except.ok.injEq]

theorem forwardedTrust_rules {content : ForwardedContent} {forwarder : String}
    {answer : Option KeyRequest} {trust : RoomKeyTrust}
    (hTrust : classifier.forwardedTrust content forwarder = .ok trust)
    (hAnswer : classifier.store.request content.requestedKey = .ok answer) :
    (trust = .unrequested ↔ answer = none) ∧
      (trust = .safe ↔ answer.isSome ∧ classifier.KnowsOwnVerified forwarder) ∧
      (trust = .unvouched ↔ answer.isSome ∧ ¬ classifier.KnowsOwnVerified forwarder) := by
  obtain ⟨hRequest, rfl⟩ | ⟨request, found, hRequest, hFound, rfl⟩ :=
    forwardedTrust_eq_ok_iff.mp hTrust
  · cases hAnswer.symm.trans hRequest
    simp
  · cases hAnswer.symm.trans hRequest
    rw [← vouchesFor_iff_knowsOwnVerified hFound]
    cases classifier.vouchesFor found <;> simp

/-- An event gives a key exactly if it is complete and the store answers, and the trust in the key
and everything that is known of it follow the rules for its kind. -/
theorem roomKey?_closed_and_exact (classifier : KeyClassifier) (event : RoomKeyEvent) :
    ((classifier.roomKey? event).isSome ↔
      (∃ content senderKey claimedKeys, event.Sends content senderKey claimedKeys) ∨
      ∃ content forwarder answer, event.Forwards content forwarder ∧
        Answers classifier.store content forwarder answer) ∧
    (∀ content senderKey claimedKeys, event.Sends content senderKey claimedKeys →
      classifier.roomKey? event = some
        { trust := .safe
          info :=
            { algorithm := content.algorithm
              session := content.session
              sessionKey := content.sessionKey
              room := content.room
              senderKey := senderKey
              forwardingChain := none
              claimedKeys := claimedKeys
              isExport := false
              sharedHistory := content.sharedHistory } }) ∧
    (∀ content forwarder answer result, event.Forwards content forwarder →
      Answers classifier.store content forwarder answer →
      classifier.roomKey? event = some result →
      (result.trust = .unrequested ↔ answer = none) ∧
      (result.trust = .safe ↔ answer.isSome ∧ classifier.KnowsOwnVerified forwarder) ∧
      (result.trust = .unvouched ↔ answer.isSome ∧ ¬ classifier.KnowsOwnVerified forwarder) ∧
      result.info =
        { algorithm := content.algorithm
          session := content.session
          sessionKey := content.sessionKey
          room := content.room
          senderKey := content.senderKey
          forwardingChain := some (content.chain ++ [forwarder])
          claimedKeys := [("ed25519", content.claimedSigningKey)]
          isExport := true
          sharedHistory := content.sharedHistory }) := by
  refine ⟨?_, ?_, ?_⟩
  · rw [Option.isSome_iff_exists]
    constructor
    · rintro ⟨result, h⟩
      obtain ⟨content, senderKey, claimedKeys, hSends, -⟩ |
        ⟨content, forwarder, trust, hForwards, hTrust, -⟩ := roomKey?_eq_some_iff.mp h
      · exact .inl ⟨content, senderKey, claimedKeys, hSends⟩
      · obtain ⟨answer, hAnswer⟩ := exists_forwardedTrust_iff.mp ⟨trust, hTrust⟩
        exact .inr ⟨content, forwarder, answer, hForwards, hAnswer⟩
    · rintro (⟨content, senderKey, claimedKeys, hSends⟩ |
        ⟨content, forwarder, answer, hForwards, hAnswer⟩)
      · exact ⟨_, roomKey?_eq_some_iff.mpr (.inl ⟨content, senderKey, claimedKeys, hSends, rfl⟩)⟩
      · obtain ⟨trust, hTrust⟩ := exists_forwardedTrust_iff.mpr ⟨answer, hAnswer⟩
        exact ⟨_, (roomKey?_of_forwards hForwards).mpr ⟨trust, hTrust, rfl⟩⟩
  · intro content senderKey claimedKeys hSends
    exact roomKey?_eq_some_iff.mpr (.inl ⟨content, senderKey, claimedKeys, hSends, rfl⟩)
  · intro content forwarder answer result hForwards hAnswer h
    obtain ⟨trust, hTrust, rfl⟩ := (roomKey?_of_forwards hForwards).mp h
    obtain ⟨hUnrequested, hSafe, hUnvouched⟩ := forwardedTrust_rules hTrust hAnswer.1
    exact ⟨hUnrequested, hSafe, hUnvouched, rfl⟩

end KeyClassifier

end DeviceTrust
