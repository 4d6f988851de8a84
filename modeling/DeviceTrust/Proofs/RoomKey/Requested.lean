import DeviceTrust.Proofs.RoomKey.Classification
import DeviceTrust.Proofs.Samples
import DeviceTrust.Proofs.Store.Requests
/-! # Forwarded keys that were asked for

A forwarded key is to count as asked for only if a request for exactly that key stands. Over a memory
store this fails in one situation, in which the index leads from a key to a request for another one.
-/

namespace DeviceTrust.MemoryStore

def Asked (changes : List Change) (key : RequestedKey) : Prop :=
  ∃ request, Live changes request ∧ request.key.room = key.room ∧
    request.key.algorithm = key.algorithm ∧ request.key.senderKey = key.senderKey ∧
    request.key.session = key.session

/-- Nothing that stands asks for the key, but the last request that was filed under its text had the
id of some request that stands. The texts of two keys can agree, since nothing separates their parts,
and an entry outlives its request when the id is used again. -/
def Confused (changes : List Change) (key : RequestedKey) : Prop :=
  ¬ Asked changes key ∧ ∃ request, Live changes request ∧ Filed changes key.indexText request.id

/-- Over the store, an event that forwards a key counts as answering a request only if a request that
stands asks for just that key. -/
def CountsOnlyAsked (ownUser : UserId) (changes : List Change) (event : RoomKeyEvent) : Prop :=
  event.eventType = "m.forwarded_room_key" →
    ∀ result, (KeyClassifier.mk ownUser (after changes).keyStore).roomKey? event = some result →
      result.trust ≠ .unrequested →
      ∃ content : ForwardedContent, content.WrittenAs event.content ∧
        Asked changes ⟨content.room, content.algorithm, content.senderKey, content.session⟩

variable {ownUser : UserId} {changes : List Change} {event : RoomKeyEvent} {content : ForwardedContent}
  {forwarder : String} {request : KeyRequest}

theorem roomKey?_of_request (hForwards : event.Forwards content forwarder)
    (hRequest : (after changes).request? content.requestedKey = some request) :
    ∃ result, (KeyClassifier.mk ownUser (after changes).keyStore).roomKey? event = some result ∧
      result.trust ≠ .unrequested := by
  have hTrust : (KeyClassifier.mk ownUser (after changes).keyStore).forwardedTrust content forwarder =
      .ok _ := KeyClassifier.forwardedTrust_eq_ok_iff.mpr (.inr ⟨request,
    (after changes).deviceByKey? forwarder, congrArg Except.ok hRequest, rfl, rfl⟩)
  refine ⟨_, (KeyClassifier.roomKey?_of_forwards hForwards).mpr ⟨_, hTrust, rfl⟩, ?_⟩
  dsimp only
  split <;> nofun

theorem request_of_roomKey? {result : ClassifiedKey} (hForwards : event.Forwards content forwarder)
    (h : (KeyClassifier.mk ownUser (after changes).keyStore).roomKey? event = some result)
    (hTrust : result.trust ≠ .unrequested) :
    ∃ request, (after changes).request? content.requestedKey = some request := by
  obtain ⟨trust, hForwarded, rfl⟩ := (KeyClassifier.roomKey?_of_forwards hForwards).mp h
  obtain ⟨_, rfl⟩ | ⟨request, _, hRequest, _⟩ :=
    KeyClassifier.forwardedTrust_eq_ok_iff.mp hForwarded
  · exact absurd rfl hTrust
  · exact ⟨request, Except.ok.inj hRequest⟩

theorem not_countsOnlyAsked (hForwards : event.Forwards content forwarder)
    (hRequest : (after changes).request? content.requestedKey = some request)
    (hAsked : ¬ Asked changes content.requestedKey) : ¬ CountsOnlyAsked ownUser changes event := by
  intro h
  obtain ⟨result, hResult, hTrust⟩ := roomKey?_of_request hForwards hRequest
  obtain ⟨other, hOther, hOtherAsked⟩ := h hForwards.eventType result hResult hTrust
  cases hForwards.content.unique hOther
  exact hAsked hOtherAsked

/-- Only the confusion of keys makes a key count as asked for that was not. -/
theorem countsOnlyAsked_iff_not_confused (ownUser : UserId) (changes : List Change)
    (event : RoomKeyEvent) : CountsOnlyAsked ownUser changes event ↔
      ∀ content forwarder, event.Forwards content forwarder →
        ¬ Confused changes content.requestedKey := by
  constructor
  · rintro h content forwarder hForwards ⟨hAsked, request, hLive, hFiled⟩
    have hRequest := request?_after_eq_some_iff.mpr ⟨hLive, hFiled⟩
    exact not_countsOnlyAsked hForwards hRequest hAsked h
  · intro h hType result hResult hTrust
    obtain ⟨_, _, _, hSends, _⟩ | ⟨content, forwarder, _, hForwards, _, _⟩ :=
      KeyClassifier.roomKey?_eq_some_iff.mp hResult
    · exact absurd (hType.symm.trans hSends.eventType) (by decide)
    · obtain ⟨request, hRequest⟩ := request_of_roomKey? hForwards hResult hTrust
      have hLive := request?_after_eq_some_iff.mp hRequest
      refine ⟨content, hForwards.content, Classical.byContradiction fun hAsked => ?_⟩
      exact h content forwarder hForwards ⟨hAsked, request, hLive⟩

namespace Sample

def key : RequestedKey := ⟨.lobby, .megolm, "sender", "session"⟩

/-- A key with the same text, in which the sender key takes the first letter of the session. -/
def shiftedKey : RequestedKey := ⟨.lobby, .megolm, "senders", "ession"⟩

def otherKey : RequestedKey := ⟨.lobby, .megolm, "sender", "other"⟩

def requestFor (key : RequestedKey) : KeyRequest := ⟨"request", key, true⟩

def single : List Change := [.saveRequest (requestFor key)]

def reused : List Change := single ++ [.saveRequest (requestFor otherKey)]

def contentOf (key : RequestedKey) : ForwardedContent :=
  ⟨key.algorithm, key.room, key.senderKey, key.session, "<key>", "<signing key>", [], false⟩

def forward (key : RequestedKey) : RoomKeyEvent :=
  ⟨"m.forwarded_room_key", .alice, some "forwarder", none, .list (contentOf key).requiredItems⟩

theorem forwards_forward (key : RequestedKey) :
    (forward key).Forwards (contentOf key) "forwarder" :=
  ⟨rfl, .inr (.inr ⟨rfl, rfl, rfl⟩), rfl⟩

end Sample

open Sample in
theorem confused_keys_are_counted : ¬ CountsOnlyAsked .alice single (forward shiftedKey) ∧
    ¬ CountsOnlyAsked .alice reused (forward key) := by
  have hOnly {asked : KeyRequest} (h : Live single asked) : asked = requestFor key :=
    Change.saveRequest.inj (List.mem_singleton.mp h.mem)
  have hFiled {text : String} (hText : key.indexText = text) : Filed single text "request" :=
    ⟨requestFor key, hText, rfl, [], [], rfl, by simp⟩
  constructor
  · have hText : key.indexText = shiftedKey.indexText := by decide
    have hLive : Live single (requestFor key) := ⟨[], [], rfl, by simp⟩
    have hRequest := request?_after_eq_some_iff.mpr ⟨hLive, hFiled hText⟩
    refine not_countsOnlyAsked (forwards_forward shiftedKey) hRequest ?_
    rintro ⟨asked, hAsked, -, -, hSender, -⟩
    cases hOnly hAsked
    exact absurd hSender (by decide)
  · have hText : otherKey.indexText ≠ key.indexText := by decide
    have hLive : Live reused (requestFor otherKey) := live_concat.mpr (.inl rfl)
    have hStale : Filed reused key.indexText "request" := filed_concat.mpr (.inr ⟨hFiled rfl, hText⟩)
    have hRequest := request?_after_eq_some_iff.mpr ⟨hLive, hStale⟩
    refine not_countsOnlyAsked (forwards_forward key) hRequest ?_
    rintro ⟨asked, hAsked, -, -, -, hSession⟩
    obtain h | ⟨hAsked, hKept⟩ := live_concat.mp hAsked
    · cases Change.saveRequest.inj h
      exact absurd hSession (by decide)
    · cases hOnly hAsked
      exact hKept rfl

end DeviceTrust.MemoryStore
