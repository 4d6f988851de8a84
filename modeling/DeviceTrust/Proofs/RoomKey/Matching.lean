import DeviceTrust.Proofs.RoomKey.Waiting
import Mathlib.Data.List.Perm.Subperm
/-! # Which waiting keys a pass accepts

A pass hands a room over to the first live invite to it, and later invites to the room find nothing.
So it accepts a key that a live invite matches, unless an invite that does not match it comes first.
-/

namespace DeviceTrust

/-- The invite is by the sender of the key and to its room, within the window of the key and of a pass
at that time. -/
def Invite.Matches (window now : Nat) (invite : Invite) (key : WaitingKey) : Prop :=
  invite.room = key.info.room ∧ invite.sender = key.sender ∧
    ((invite.receivedAt : Int) - now).natAbs < window ∧
    ((key.receivedAt : Int) - invite.receivedAt).natAbs < window

namespace WaitingRoom

def Matched (window now : Nat) (waiting : WaitingRoom) (key : WaitingKey) : Prop :=
  ∃ invite ∈ waiting.invites, invite.Matches window now key

instance (window now : Nat) (invite : Invite) (key : WaitingKey) :
    Decidable (invite.Matches window now key) := inferInstanceAs (Decidable (_ ∧ _))

instance (window now : Nat) (waiting : WaitingRoom) (key : WaitingKey) :
    Decidable (Matched window now waiting key) := inferInstanceAs (Decidable (∃ _ ∈ _, _))

/-- A pass accepts all matched keys, each as often as it waits. -/
def AcceptsMatched (window now : Nat) (waiting : WaitingRoom) : Prop :=
  ((waiting.keys.filter (Matched window now waiting ·)).map (·.info)).Subperm
    (process window waiting now).1

def inviteFor? (invites : List Invite) (key : WaitingKey) : Option Invite :=
  invites.find? fun invite => invite.room == key.info.room

/-- The key is matched, but the first live invite to its room is by another user or too far from it. -/
def Overlooked (window now : Nat) (waiting : WaitingRoom) (key : WaitingKey) : Prop :=
  Matched window now waiting key ∧
    ∃ first, inviteFor? (waiting.liveInvites window now) key = some first ∧
      (first.sender ≠ key.sender ∨ window ≤ ((key.receivedAt : Int) - first.receivedAt).natAbs)

def isTaken (window : Nat) (invites : List Invite) (key : WaitingKey) : Bool :=
  (inviteFor? invites key).any fun invite => accepts window invite key

variable {window now : Nat} {invites : List Invite} {invite : Invite} {keys : List WaitingKey}
  {key : WaitingKey} {waiting : WaitingRoom}

theorem isTaken_cons_of_room (h : key.info.room = invite.room) :
    isTaken window (invite :: invites) key = accepts window invite key := by
  simp [isTaken, inviteFor?, h]

theorem isTaken_cons_of_ne (h : key.info.room ≠ invite.room) :
    isTaken window (invite :: invites) key = isTaken window invites key := by
  simp [isTaken, inviteFor?, Ne.symm h]

theorem takeOut_fst_perm : (takeOut window invites keys).1.Perm
    ((keys.filter (isTaken window invites)).map (·.info)) := by
  induction invites generalizing keys with
  | nil => simp [takeOut, isTaken, inviteFor?]
  | cons invite rest ih =>
    have hRoom : ∀ key ∈ keys.filter (·.info.room == invite.room),
        accepts window invite key = isTaken window (invite :: rest) key := by
      intro key hKey
      have hSame := (List.mem_filter.mp hKey).2
      exact (isTaken_cons_of_room (beq_iff_eq.mp hSame)).symm
    have hOthers : ∀ key ∈ keys.filter (·.info.room != invite.room),
        isTaken window rest key = isTaken window (invite :: rest) key := by
      intro key hKey
      have hNe := (List.mem_filter.mp hKey).2
      exact (isTaken_cons_of_ne (bne_iff_ne.mp hNe)).symm
    have hSplit : (keys.filter (·.info.room == invite.room) ++
        keys.filter (·.info.room != invite.room)).Perm keys := List.filter_append_perm _ keys
    simp only [takeOut]
    rw [List.filter_congr hRoom]
    refine (ih.append_left _).trans ?_
    rw [List.filter_congr hOthers, ← List.map_append, ← List.filter_append]
    exact (hSplit.filter _).map _

theorem process_fst_perm : (process window waiting now).1.Perm
    ((waiting.keys.filter (isTaken window (waiting.liveInvites window now))).map (·.info)) :=
  takeOut_fst_perm

theorem isTaken_iff : isTaken window invites key = true ↔
    ∃ first, inviteFor? invites key = some first ∧ accepts window first key = true := by
  rw [isTaken, Option.any_eq_true]

theorem mem_of_inviteFor? (h : inviteFor? invites key = some invite) :
    invite ∈ invites ∧ invite.room = key.info.room := by
  obtain ⟨hRoom, _⟩ := List.find?_eq_some_iff_append.mp h
  exact ⟨List.mem_of_find?_eq_some h, beq_iff_eq.mp hRoom⟩

theorem mem_liveInvites : invite ∈ waiting.liveInvites window now ↔
    invite ∈ waiting.invites ∧ ((invite.receivedAt : Int) - now).natAbs < window := by
  rw [liveInvites, List.mem_filter, isWithin_iff]

theorem accepts_eq_true_iff : accepts window invite key = true ↔ invite.sender = key.sender ∧
    ((key.receivedAt : Int) - invite.receivedAt).natAbs < window := by
  rw [accepts_iff, isWithin_iff, eq_comm]

theorem matched_of_isTaken (h : isTaken window (waiting.liveInvites window now) key = true) :
    Matched window now waiting key := by
  obtain ⟨first, hFirst, hAccepts⟩ := isTaken_iff.mp h
  obtain ⟨hMem, hRoom⟩ := mem_of_inviteFor? hFirst
  obtain ⟨hInvite, hLive⟩ := mem_liveInvites.mp hMem
  obtain ⟨hSender, hWithin⟩ := accepts_eq_true_iff.mp hAccepts
  exact ⟨first, hInvite, hRoom, hSender, hLive, hWithin⟩

theorem exists_inviteFor? (h : Matched window now waiting key) :
    ∃ first, inviteFor? (waiting.liveInvites window now) key = some first := by
  obtain ⟨invite, hInvite, hRoom, _, hLive, _⟩ := h
  apply Option.isSome_iff_exists.mp
  rw [inviteFor?, List.find?_isSome]
  exact ⟨invite, mem_liveInvites.mpr ⟨hInvite, hLive⟩, beq_iff_eq.mpr hRoom⟩

theorem overlooked_iff : Overlooked window now waiting key ↔ Matched window now waiting key ∧
    ¬ isTaken window (waiting.liveInvites window now) key = true := by
  refine and_congr_right fun hMatched => ?_
  obtain ⟨first, hFirst⟩ := exists_inviteFor? hMatched
  rw [isTaken_iff]
  simp only [hFirst, Option.some.injEq, exists_eq_left', accepts_eq_true_iff]
  rw [not_and_or, Nat.not_lt]

/-- A pass accepts all matched keys just if it overlooks none of them. -/
theorem acceptsMatched_iff_none_overlooked (window now : Nat) (waiting : WaitingRoom) :
    AcceptsMatched window now waiting ↔
      ∀ key ∈ waiting.keys, ¬ Overlooked window now waiting key := by
  rw [AcceptsMatched, process_fst_perm.subperm_left]
  have hSublist : (waiting.keys.filter (isTaken window (waiting.liveInvites window now))).Sublist
      (waiting.keys.filter (Matched window now waiting ·)) := by
    refine List.monotone_filter_right _ fun key hTaken => ?_
    exact decide_eq_true (matched_of_isTaken hTaken)
  constructor
  -- As many keys are taken as are matched, so they are the same.
  · intro h key hKey hOverlooked
    obtain ⟨hMatched, hTaken⟩ := overlooked_iff.mp hOverlooked
    have hLength := h.length_le
    rw [List.length_map, List.length_map] at hLength
    have hSame := hSublist.eq_of_length_le hLength
    have hMem : key ∈ waiting.keys.filter (Matched window now waiting ·) :=
      List.mem_filter.mpr ⟨hKey, decide_eq_true hMatched⟩
    rw [← hSame] at hMem
    exact hTaken (List.mem_filter.mp hMem).2
  · intro h
    have hTaken : ∀ key ∈ waiting.keys, decide (Matched window now waiting key) =
        isTaken window (waiting.liveInvites window now) key := by
      intro key hKey
      have hNone := h key hKey
      rw [overlooked_iff, not_and_not_right] at hNone
      exact Bool.eq_iff_iff.mpr (decide_eq_true_iff.trans ⟨hNone, matched_of_isTaken⟩)
    rw [List.filter_congr hTaken]

namespace Sample

def interposed : List Event :=
  [.add Sample.key .bob identityText (.ok [bobDevice]) 0 0, .invite .lobby .carol 100,
    .invite .lobby .bob 200]

end Sample

open Sample in
theorem interposed_invite_hides_key : ¬ AcceptsMatched 600 300 (run 600 {} interposed).2 := by
  intro h
  have hAccepted : (process 600 (run 600 {} interposed).2 300).1 = [] := by decide
  have hLength := h.length_le
  rw [hAccepted] at hLength
  exact absurd hLength (by decide)

end WaitingRoom

end DeviceTrust
