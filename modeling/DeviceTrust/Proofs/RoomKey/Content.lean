import DeviceTrust.Proofs.Json.Record
import DeviceTrust.RoomKey.Event
/-! # How room key contents are written

The contents of both kinds of room key events come from other clients as free-form JSON. They are read
from exactly the objects and lists described here: every required field has its one written form, and
only the fields with a value of their own may be missing.
-/

namespace DeviceTrust

open Codec Record

instance : Exact Algorithm where
  decode_eq_some {json algorithm} := by
    obtain ⟨token⟩ := algorithm
    simp [Codec.decode, encode, text?_eq_some_iff]

instance : Exact RoomId where
  decode_eq_some {json room} := by
    constructor
    · intro h
      obtain ⟨text, hText, hRoom⟩ := Option.bind_eq_some_iff.mp h
      rw [RoomId.ofString?] at hRoom
      split at hRoom <;> cases hRoom
      exact text?_eq_some_iff.mp hText
    · rintro rfl
      exact Faithful.decode_encode room

/-- An object gives a field, or leaves it out and means the value for that. -/
def Tells {α : Type} [Codec α] (fields : List (String × Json)) (name : String) (value a : α) : Prop :=
  Json.lookup name fields = some (encode a) ∨ Json.lookup name fields = none ∧ a = value

namespace DirectContent

structure NamedIn (content : DirectContent) (fields : List (String × Json)) : Prop where
  algorithm : Json.lookup "algorithm" fields = some (.text content.algorithm.token)
  room : Json.lookup "room_id" fields = some (.text content.room.text)
  session : Json.lookup "session_id" fields = some (.text content.session)
  sessionKey : Json.lookup "session_key" fields = some (.text content.sessionKey)
  sharedHistory : Tells fields "org.matrix.msc3061.shared_history" false content.sharedHistory

def requiredItems (content : DirectContent) : List Json :=
  [.text content.algorithm.token, .text content.room.text, .text content.session,
    .text content.sessionKey]

def OrderedIn (content : DirectContent) (items : List Json) : Prop :=
  items = content.requiredItems ++ [.bool content.sharedHistory] ∨
    items = content.requiredItems ∧ content.sharedHistory = false

def WrittenAs (content : DirectContent) : Json → Prop
  | .object fields => content.NamedIn fields
  | .list items => content.OrderedIn items
  | _ => False

variable {content : DirectContent}

theorem decode_object_eq_some_iff {fields : List (String × Json)} :
    decode (.object fields) = some content ↔ content.NamedIn fields := by
  rw [decode, Record.decode_object_eq_some_iff]
  simp only [reader, DeviceTrust.sharedHistory, bind_named_eq_some_iff,
    Field.required_find?_eq_some_iff, Field.defaulted_find?_eq_some_iff]
  constructor
  · rintro ⟨_, algorithm, hAlgorithm, room, hRoom, session, hSession, key, hKey, shared, hShared, h⟩
    cases h
    exact ⟨hAlgorithm, hRoom, hSession, hKey, hShared⟩
  · intro h
    exact ⟨_, _, h.algorithm, _, h.room, _, h.session, _, h.sessionKey, _, h.sharedHistory, rfl⟩

theorem decode_list_eq_some_iff {items : List Json} :
    decode (.list items) = some content ↔ content.OrderedIn items := by
  rw [decode, Record.decode_list_eq_some_iff]
  simp only [reader, DeviceTrust.sharedHistory, bind_required_ordered_eq_some_iff,
    bind_defaulted_ordered_eq_some_iff, pure_ordered_eq_some_iff]
  constructor
  · rintro ⟨algorithm, _, rfl, room, _, rfl, session, _, rfl, key, _, rfl, hLast⟩
    rcases hLast with ⟨rfl, rfl, -⟩ | ⟨shared, _, rfl, rfl, rfl⟩
    · exact .inr ⟨rfl, rfl⟩
    · exact .inl rfl
  · obtain ⟨algorithm, room, session, key, shared⟩ := content
    rintro (rfl | ⟨rfl, hShared⟩)
    · exact ⟨algorithm, _, rfl, room, _, rfl, session, _, rfl, key, _, rfl,
        .inr ⟨shared, _, rfl, rfl, rfl⟩⟩
    · cases hShared
      exact ⟨algorithm, _, rfl, room, _, rfl, session, _, rfl, key, _, rfl,
        .inl ⟨rfl, rfl, trivial⟩⟩

theorem decode_eq_some_iff {json : Json} : decode json = some content ↔ content.WrittenAs json := by
  cases json with
  | object fields => exact decode_object_eq_some_iff
  | list items => exact decode_list_eq_some_iff
  | _ => exact iff_of_false nofun id

end DirectContent

namespace ForwardedContent

structure NamedIn (content : ForwardedContent) (fields : List (String × Json)) : Prop where
  algorithm : Json.lookup "algorithm" fields = some (.text content.algorithm.token)
  room : Json.lookup "room_id" fields = some (.text content.room.text)
  senderKey : Json.lookup "sender_key" fields = some (.text content.senderKey)
  session : Json.lookup "session_id" fields = some (.text content.session)
  sessionKey : Json.lookup "session_key" fields = some (.text content.sessionKey)
  claimedSigningKey :
    Json.lookup "sender_claimed_ed25519_key" fields = some (.text content.claimedSigningKey)
  chain : Tells fields "forwarding_curve25519_key_chain" [] content.chain
  sharedHistory : Tells fields "org.matrix.msc3061.shared_history" false content.sharedHistory

def requiredItems (content : ForwardedContent) : List Json :=
  [.text content.algorithm.token, .text content.room.text, .text content.senderKey,
    .text content.session, .text content.sessionKey, .text content.claimedSigningKey]

/-- A list that is read as this content; what it leaves out it leaves out from the end. -/
def OrderedIn (content : ForwardedContent) (items : List Json) : Prop :=
  items = content.requiredItems ++ [encode content.chain, .bool content.sharedHistory] ∨
    items = content.requiredItems ++ [encode content.chain] ∧ content.sharedHistory = false ∨
    items = content.requiredItems ∧ content.chain = [] ∧ content.sharedHistory = false

def WrittenAs (content : ForwardedContent) : Json → Prop
  | .object fields => content.NamedIn fields
  | .list items => content.OrderedIn items
  | _ => False

variable {content : ForwardedContent}

theorem decode_object_eq_some_iff {fields : List (String × Json)} :
    decode (.object fields) = some content ↔ content.NamedIn fields := by
  rw [decode, Record.decode_object_eq_some_iff]
  simp only [reader, DeviceTrust.sharedHistory, bind_named_eq_some_iff,
    Field.required_find?_eq_some_iff, Field.defaulted_find?_eq_some_iff]
  constructor
  · rintro ⟨_, algorithm, hAlgorithm, room, hRoom, senderKey, hSenderKey, session, hSession, key, hKey,
      claimed, hClaimed, chain, hChain, shared, hShared, h⟩
    cases h
    exact ⟨hAlgorithm, hRoom, hSenderKey, hSession, hKey, hClaimed, hChain, hShared⟩
  · intro h
    exact ⟨_, _, h.algorithm, _, h.room, _, h.senderKey, _, h.session, _, h.sessionKey, _,
      h.claimedSigningKey, _, h.chain, _, h.sharedHistory, rfl⟩

theorem decode_list_eq_some_iff {items : List Json} :
    decode (.list items) = some content ↔ content.OrderedIn items := by
  rw [decode, Record.decode_list_eq_some_iff]
  simp only [reader, DeviceTrust.sharedHistory, bind_required_ordered_eq_some_iff,
    bind_defaulted_ordered_eq_some_iff, pure_ordered_eq_some_iff]
  constructor
  · rintro ⟨algorithm, _, rfl, room, _, rfl, senderKey, _, rfl, session, _, rfl, key, _, rfl,
      claimed, _, rfl, hChain⟩
    rcases hChain with ⟨rfl, ⟨-, rfl, -⟩ | ⟨_, _, hNone, _⟩⟩ | ⟨chain, _, rfl, hShared⟩
    · exact .inr (.inr ⟨rfl, rfl, rfl⟩)
    · cases hNone
    · rcases hShared with ⟨rfl, rfl, -⟩ | ⟨shared, _, rfl, rfl, rfl⟩
      · exact .inr (.inl ⟨rfl, rfl⟩)
      · exact .inl rfl
  · obtain ⟨algorithm, room, senderKey, session, key, claimed, chain, shared⟩ := content
    intro hItems
    -- In all three lists the required items come first, so they are read once.
    have hRequired : ∃ last, items = requiredItems ⟨algorithm, room, senderKey, session, key, claimed,
        chain, shared⟩ ++ last := by
      obtain h | ⟨h, -⟩ | ⟨h, -⟩ := hItems
      · exact ⟨_, h⟩
      · exact ⟨_, h⟩
      · exact ⟨[], by rw [List.append_nil, h]⟩
    obtain ⟨last, rfl⟩ := hRequired
    refine ⟨algorithm, _, rfl, room, _, rfl, senderKey, _, rfl, session, _, rfl, key, _, rfl,
      claimed, last, rfl, ?_⟩
    obtain h | ⟨h, hShared⟩ | ⟨h, hChain, hShared⟩ := hItems
    · cases List.append_cancel_left h
      exact .inr ⟨chain, _, rfl, .inr ⟨shared, _, rfl, rfl, rfl⟩⟩
    · cases List.append_cancel_left h
      cases hShared
      exact .inr ⟨chain, _, rfl, .inl ⟨rfl, rfl, trivial⟩⟩
    · cases List.append_right_eq_self.mp h
      cases hChain
      cases hShared
      exact .inl ⟨rfl, .inl ⟨trivial, rfl, trivial⟩⟩

theorem decode_eq_some_iff {json : Json} : decode json = some content ↔ content.WrittenAs json := by
  cases json with
  | object fields => exact decode_object_eq_some_iff
  | list items => exact decode_list_eq_some_iff
  | _ => exact iff_of_false nofun id

theorem WrittenAs.unique {other : ForwardedContent} {json : Json} (h : content.WrittenAs json)
    (hOther : other.WrittenAs json) : content = other := by
  rw [← decode_eq_some_iff] at h hOther
  exact Option.some.inj (h.symm.trans hOther)

end ForwardedContent

end DeviceTrust
