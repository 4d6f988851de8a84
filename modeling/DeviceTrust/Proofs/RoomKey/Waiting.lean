import DeviceTrust.Proofs.Samples
import DeviceTrust.Proofs.Since
import DeviceTrust.RoomKey.Waiting
/-! # Why a waiting key is accepted

A run of a waiting room keeps no record of its past. Each key and each invite that it still holds goes
back to an event since the last close, so whatever a pass accepts is justified by two such events.
-/

namespace DeviceTrust.WaitingRoom

variable {window now : Nat} {invites : List Invite} {keys : List WaitingKey} {info : RoomKeyInfo}
  {waiting : WaitingRoom}

theorem isWithin_iff {first second : Nat} :
    isWithin window first second = true ↔ ((first : Int) - second).natAbs < window := by
  rw [isWithin, decide_eq_true_iff, elapsed]
  omega

theorem accepts_iff {invite : Invite} {key : WaitingKey} :
    accepts window invite key = true ↔
      key.sender = invite.sender ∧ isWithin window key.receivedAt invite.receivedAt = true := by
  simp [accepts]

/-! ## One pass -/

theorem of_mem_takeOut_fst (h : info ∈ (takeOut window invites keys).1) :
    ∃ invite ∈ invites, ∃ key ∈ keys,
      key.info = info ∧ info.room = invite.room ∧ accepts window invite key = true := by
  induction invites generalizing keys with
  | nil => simp [takeOut] at h
  | cons invite rest ih =>
    simp only [takeOut, List.mem_append, List.mem_map, List.mem_filter, beq_iff_eq] at h
    rcases h with ⟨key, ⟨⟨hKey, hRoom⟩, hAccepts⟩, rfl⟩ | h
    · exact ⟨invite, List.mem_cons_self, key, hKey, rfl, hRoom, hAccepts⟩
    · obtain ⟨other, hOther, key, hKey, hInfo⟩ := ih h
      exact ⟨other, List.mem_cons_of_mem _ hOther, key, (List.mem_filter.mp hKey).1, hInfo⟩

theorem takeOut_snd : (takeOut window invites keys).2 =
    keys.filter fun key => invites.all fun invite => key.info.room != invite.room := by
  induction invites generalizing keys with
  | nil => exact (List.filter_eq_self.mpr fun _ _ => rfl).symm
  | cons invite rest ih =>
    simp only [takeOut, ih, List.filter_filter, List.all_cons]
    congr 1
    funext key
    exact Bool.and_comm _ _

def liveInvites (window : Nat) (waiting : WaitingRoom) (now : Nat) : List Invite :=
  waiting.invites.filter fun invite => isWithin window invite.receivedAt now

theorem process_eq : process window waiting now =
    ((takeOut window (waiting.liveInvites window now) waiting.keys).1,
      ⟨(takeOut window (waiting.liveInvites window now) waiting.keys).2,
        waiting.liveInvites window now⟩) := rfl

theorem of_mem_process_fst (h : info ∈ (process window waiting now).1) :
    ∃ invite ∈ waiting.invites, ∃ key ∈ waiting.keys,
      key.info = info ∧ info.room = invite.room ∧ key.sender = invite.sender ∧
      isWithin window key.receivedAt invite.receivedAt = true ∧
      isWithin window invite.receivedAt now = true := by
  rw [process_eq] at h
  obtain ⟨invite, hInvite, key, hKey, hInfo, hRoom, hAccepts⟩ := of_mem_takeOut_fst h
  obtain ⟨hInvite, hNow⟩ := List.mem_filter.mp hInvite
  obtain ⟨hSender, hWithin⟩ := accepts_iff.mp hAccepts
  exact ⟨invite, hInvite, key, hKey, hInfo, hRoom, hSender, hWithin, hNow⟩

theorem process_keys_subset : (process window waiting now).2.keys ⊆ waiting.keys := by
  intro key hKey
  rw [process_eq, takeOut_snd] at hKey
  exact (List.mem_filter.mp hKey).1

theorem process_invites_subset : (process window waiting now).2.invites ⊆ waiting.invites :=
  fun _ hInvite => (List.mem_filter.mp hInvite).1

/-! ## What is held goes back to the run -/

def closes (_ : List Event) (event : Event) : Prop := event = .close

def Owns (sender : UserId) (senderKey : String) (devices : List Device) : Prop :=
  ∃ device ∈ devices, device.owner = sender ∧ device.IdentifiedBy senderKey

/-- The sender handed in that key, and owned the identity key that came with it. -/
def Arrived (past : List Event) (info : RoomKeyInfo) (sender : UserId) (arrival : Nat) : Prop :=
  ∃ senderKey devices pass,
    Since closes past (.add info sender senderKey (.ok devices) arrival pass) ∧
    Owns sender senderKey devices

def Invited (past : List Event) (room : RoomId) (sender : UserId) (arrival : Nat) : Prop :=
  Since closes past (.invite room sender arrival)

structure Documented (past : List Event) (waiting : WaitingRoom) : Prop where
  keys : ∀ key ∈ waiting.keys, Arrived past key.info key.sender key.receivedAt
  invites : ∀ invite ∈ waiting.invites, Invited past invite.room invite.sender invite.receivedAt

variable {past : List Event} {event : Event} {sender : UserId} {senderKey : String}
  {devices : List Device} {arrival : Nat}

theorem ownsKey_iff : ownsKey sender senderKey devices = true ↔ Owns sender senderKey devices := by
  simp [ownsKey, Owns, Device.hasIdentityKey_iff]

instance : Decidable (Owns sender senderKey devices) := decidable_of_iff _ ownsKey_iff

theorem step_of_owns (h : Owns sender senderKey devices) :
    waiting.step window (.add info sender senderKey (.ok devices) arrival now) =
      process window { waiting with keys := waiting.keys ++ [⟨info, sender, arrival⟩] } now :=
  if_pos (ownsKey_iff.mpr h)

theorem step_of_not_owns (h : ¬ Owns sender senderKey devices) :
    waiting.step window (.add info sender senderKey (.ok devices) arrival now) = ([], waiting) :=
  if_neg fun hOwns => h (ownsKey_iff.mp hOwns)

theorem Arrived.concat (h : Arrived past info sender arrival) (hEvent : event ≠ .close) :
    Arrived (past ++ [event]) info sender arrival := by
  obtain ⟨senderKey, devices, pass, hSince, hOwner⟩ := h
  exact ⟨senderKey, devices, pass, since_concat.mpr (.inr ⟨hSince, hEvent⟩), hOwner⟩

theorem Invited.concat {room : RoomId} (h : Invited past room sender arrival)
    (hEvent : event ≠ .close) : Invited (past ++ [event]) room sender arrival :=
  since_concat.mpr (.inr ⟨h, hEvent⟩)

theorem Documented.concat (h : Documented past waiting) (hEvent : event ≠ .close) :
    Documented (past ++ [event]) waiting :=
  ⟨fun key hKey => (h.keys key hKey).concat hEvent,
    fun invite hInvite => (h.invites invite hInvite).concat hEvent⟩

theorem Documented.pass (h : Documented past waiting) :
    Documented past (waiting.process window now).2 :=
  ⟨fun key hKey => h.keys key (process_keys_subset hKey),
    fun invite hInvite => h.invites invite (process_invites_subset hInvite)⟩

theorem Documented.arrive (h : Documented past waiting) (hOwns : Owns sender senderKey devices) :
    Documented (past ++ [.add info sender senderKey (.ok devices) arrival now])
      { waiting with keys := waiting.keys ++ [⟨info, sender, arrival⟩] } := by
  have hConcat : Documented (past ++ [.add info sender senderKey (.ok devices) arrival now]) waiting :=
    h.concat nofun
  refine ⟨?_, hConcat.invites⟩
  intro key hKey
  rcases List.mem_append.mp hKey with hKey | hKey
  · exact hConcat.keys key hKey
  · obtain rfl := List.mem_singleton.mp hKey
    exact ⟨senderKey, devices, now, since_concat.mpr (.inl rfl), hOwns⟩

theorem Documented.invite {room : RoomId} (h : Documented past waiting) :
    Documented (past ++ [.invite room sender now]) (waiting.invite room sender now) := by
  have hConcat : Documented (past ++ [.invite room sender now]) waiting := h.concat nofun
  refine ⟨hConcat.keys, ?_⟩
  intro invite hInvite
  rcases List.mem_append.mp hInvite with hInvite | hInvite
  · exact hConcat.invites invite hInvite
  · obtain rfl := List.mem_singleton.mp hInvite
    exact since_concat.mpr (.inl rfl)

theorem Documented.step (h : Documented past waiting) (event : Event) :
    Documented (past ++ [event]) (waiting.step window event).2 := by
  cases event with
  | add info sender senderKey download arrival now =>
    cases download with
    | error _ => exact h.concat nofun
    | ok devices =>
      by_cases hOwns : Owns sender senderKey devices
      · rw [step_of_owns hOwns]
        exact (h.arrive hOwns).pass
      · rw [step_of_not_owns hOwns]
        exact h.concat nofun
  | invite room sender now => exact h.invite
  | process now => exact Documented.pass (h.concat nofun)
  | close => exact ⟨nofun, nofun⟩

/-! ## What is accepted is justified -/

def Event.pass? : Event → Option Nat
  | .add _ _ _ _ _ now => some now
  | .process now => some now
  | .invite .. | .close => none

/-- A pass at `now` may accept a key that arrived within the window of an invite to its room by its
own sender, if that invite is within the window itself. -/
def Justified (window : Nat) (past : List Event) (info : RoomKeyInfo) (now : Nat) : Prop :=
  ∃ sender arrival invited,
    Arrived past info sender arrival ∧ Invited past info.room sender invited ∧
    ((arrival : Int) - invited).natAbs < window ∧ ((invited : Int) - now).natAbs < window

theorem Documented.pass_justified (h : Documented past waiting)
    (hInfo : info ∈ (process window waiting now).1) : Justified window past info now := by
  obtain ⟨invite, hInvite, key, hKey, rfl, hRoom, hSender, hWithin, hNow⟩ := of_mem_process_fst hInfo
  refine ⟨key.sender, key.receivedAt, invite.receivedAt, h.keys key hKey, ?_,
    isWithin_iff.mp hWithin, isWithin_iff.mp hNow⟩
  rw [hRoom, hSender]
  exact h.invites invite hInvite

theorem Documented.step_justified (h : Documented past waiting)
    (hInfo : info ∈ (waiting.step window event).1) :
    ∃ now, event.pass? = some now ∧ Justified window (past ++ [event]) info now := by
  cases event with
  | add other sender senderKey download arrival now =>
    cases download with
    | error _ => cases hInfo
    | ok devices =>
      by_cases hOwns : Owns sender senderKey devices
      · rw [step_of_owns hOwns] at hInfo
        exact ⟨now, rfl, (h.arrive hOwns).pass_justified hInfo⟩
      · rw [step_of_not_owns hOwns] at hInfo
        cases hInfo
  | invite room sender now => cases hInfo
  | process now => exact ⟨now, rfl, Documented.pass_justified (h.concat nofun) hInfo⟩
  | close => cases hInfo

theorem Documented.run_justified (h : Documented past waiting) {events : List Event} {i : Nat}
    {accepted : List RoomKeyInfo} (hRun : (waiting.run window events).1[i]? = some accepted)
    (hInfo : info ∈ accepted) :
    ∃ event now, events[i]? = some event ∧ event.pass? = some now ∧
      Justified window (past ++ events.take (i + 1)) info now := by
  induction events generalizing past waiting i with
  | nil => simp [WaitingRoom.run] at hRun
  | cons event rest ih =>
    cases i with
    | zero =>
      obtain rfl : (waiting.step window event).1 = accepted := Option.some.inj hRun
      obtain ⟨now, hPass, hJustified⟩ := h.step_justified hInfo
      exact ⟨event, now, rfl, hPass, by simpa using hJustified⟩
    | succ i =>
      obtain ⟨other, now, hOther, hPass, hJustified⟩ := ih (h.step event) hRun
      exact ⟨other, now, hOther, hPass, by simpa using hJustified⟩

/-- Whatever event number `i` of a run accepts is justified at its pass: the key arrived from a sender
who owned the identity key it came with, that same sender had invited us to the room of the key, both up
to that event and after the last close, and both in time. -/
theorem accepted_arrived_and_invited (window : Nat) (events : List Event) {i : Nat}
    {accepted : List RoomKeyInfo} {info : RoomKeyInfo}
    (hRun : (run window {} events).1[i]? = some accepted) (hInfo : info ∈ accepted) :
    ∃ event now, events[i]? = some event ∧ event.pass? = some now ∧
      Justified window (events.take (i + 1)) info now := by
  have hEmpty : Documented [] {} := ⟨nofun, nofun⟩
  simpa using hEmpty.run_justified hRun hInfo

namespace Sample

def identityText : String := "AAAAAAAAAAAAAAAAAAAAAAAAAAAAAAAAAAAAAAAAAAA"

def bobDevice : Device := .new .bob "PHONE" (some ⟨List.replicate 32 0, rfl⟩)

def key : RoomKeyInfo := ⟨.megolm, "session", "<key>", .lobby, identityText, some [], [], true, true⟩

/-- A key that is lost in a close and comes again, an invite to another room, and a clock that runs back
before the invite that counts. -/
def events : List Event :=
  [.add key .bob identityText (.ok [bobDevice]) 0 0, .close, .invite .attic .bob 650,
    .add key .bob identityText (.ok [bobDevice]) 700 700, .invite .lobby .bob 500, .process 900]

end Sample

theorem accepted_after_late_invite :
    (run 600 {} Sample.events).1[5]? = some [Sample.key] ∧ Sample.key ∈ [Sample.key] ∧
      ∃ event now, Sample.events[5]? = some event ∧ event.pass? = some now ∧
        Justified 600 (Sample.events.take 6) Sample.key now :=
  have hRun : (run 600 {} Sample.events).1[5]? = some [Sample.key] := by decide
  ⟨hRun, List.mem_cons_self, accepted_arrived_and_invited 600 Sample.events hRun List.mem_cons_self⟩

end DeviceTrust.WaitingRoom
