import DeviceTrust.Proofs.RoomKey.Fates
import Mathlib.Data.List.Induction
/-! # How long keys and invites are held

A pass looks at the age of the invites alone. An invite is held until a pass is out of its window, but a
key until a pass finds an invite to its room, however long that takes. So a key that nobody follows up with
an invite outstays the window.
-/

namespace DeviceTrust.WaitingRoom

structure InTime (window now : Nat) (waiting : WaitingRoom) : Prop where
  invites : ∀ invite ∈ waiting.invites, ((invite.receivedAt : Int) - now).natAbs < window
  keys : ∀ key ∈ waiting.keys, ((key.receivedAt : Int) - now).natAbs < window

def HoldsInTime (window : Nat) (events : List Event) : Prop :=
  ∀ past event rest now, events = past ++ event :: rest → event.passTime? = some now →
    InTime window now (run window {} (past ++ [event])).2

/-- An invite of that time does not outlast the event: a close, or a pass out of its window. -/
def Lapses (window invited : Nat) (event : Event) : Prop :=
  event = .close ∨ ∃ now : Nat, event.passTime? = some now ∧ window ≤ ((invited : Int) - now).natAbs

/-- No key of the room outlasts the event: a close, or a pass in the window of an invite to the room that
did not lapse before. -/
def Clears (window : Nat) (past : List Event) (event : Event) (room : RoomId) : Prop :=
  event = .close ∨ ∃ now : Nat, event.passTime? = some now ∧ ∃ sender invited,
    Since (fun _ => Lapses window invited) past (.invite room sender invited) ∧
    ((invited : Int) - now).natAbs < window

/-- The key arrived, and neither that event nor a later one cleared its room. -/
def Lingers (window : Nat) (events : List Event) (key : WaitingKey) : Prop :=
  Underway
    (fun past event => event.arrival? = some key ∧ ¬ Clears window past event key.info.room)
    (fun past event => Clears window past event key.info.room) events

/-- After some pass a key lingers that arrived the window or more away from the pass. -/
def Outstays (window : Nat) (events : List Event) : Prop :=
  ∃ past event rest, ∃ now : Nat, ∃ key, events = past ++ event :: rest ∧
    event.passTime? = some now ∧ Lingers window (past ++ [event]) key ∧
    window ≤ ((key.receivedAt : Int) - now).natAbs

variable {window : Nat} {waiting : WaitingRoom} {past events : List Event} {event last : Event}
  {invite : Invite} {key : WaitingKey} {room : RoomId}

/-! ## Invites -/

theorem run_concat_snd (window : Nat) (waiting : WaitingRoom) (events : List Event) (last : Event) :
    (waiting.run window (events ++ [last])).2 =
      ((waiting.run window events).2.step window last).2 := by
  induction events generalizing waiting with
  | nil => rfl
  | cons event rest ih => exact ih _

theorem mem_step_invites : invite ∈ (waiting.step window event).2.invites ↔
    .invite invite.room invite.sender invite.receivedAt = event ∨
      (invite ∈ waiting.invites ∧ ¬ Lapses window invite.receivedAt event) := by
  cases event with
  | add info sender senderKey download arrival now =>
    cases download with
    | error error => simp [step, add, Lapses, Event.passTime?]
    | ok devices =>
      by_cases hOwns : Owns sender senderKey devices
      · rw [step_of_owns hOwns]
        simp [hOwns, Lapses, Event.passTime?, process_eq, mem_liveInvites]
      · rw [step_of_not_owns hOwns]
        simp [hOwns, Lapses, Event.passTime?]
  | invite room sender now =>
    have hSame : Event.invite invite.room invite.sender invite.receivedAt =
        .invite room sender now ↔ invite = ⟨room, sender, now⟩ := by
      cases invite
      simp
    simp [step, WaitingRoom.invite, hSame, Lapses, Event.passTime?, or_comm]
  | process now => simp [step, Lapses, Event.passTime?, process_eq, mem_liveInvites]
  | close => simp [step, Lapses]

theorem mem_run_invites : invite ∈ (run window {} events).2.invites ↔
    Since (fun _ => Lapses window invite.receivedAt) events
      (.invite invite.room invite.sender invite.receivedAt) := by
  induction events using List.reverseRecOn with
  | nil => exact iff_of_false List.not_mem_nil not_since_nil
  | append_singleton past last ih =>
    rw [run_concat_snd, mem_step_invites, since_concat, ih]

/-! ## Keys -/

theorem drops_run_iff : Drops window (run window {} past).2 event room ↔
    Clears window past event room := by
  refine or_congr_right (exists_congr fun now => and_congr_right fun _ => ?_)
  simp only [mem_liveInvites, mem_run_invites]
  constructor
  · rintro ⟨invite, ⟨hHeld, hNow⟩, rfl⟩
    exact ⟨invite.sender, invite.receivedAt, hHeld, hNow⟩
  · rintro ⟨sender, invited, hHeld, hNow⟩
    exact ⟨⟨room, sender, invited⟩, ⟨hHeld, hNow⟩, rfl⟩

theorem verdict_eq_none_iff : waiting.verdict window event key = none ↔
    ¬ Drops window waiting event key.info.room := by
  cases hPass : event.passTime? with
  | some now =>
    have hClose : event ≠ .close := by
      rintro rfl
      cases hPass
    rw [verdict_of_pass hPass, Option.map_eq_none_iff, inviteFor?, List.find?_eq_none]
    simp [Drops, hClose, hPass]
  | none =>
    rw [verdict, hPass]
    cases event <;> simp [Drops, Event.isClose, hPass]

theorem mem_run_keys : key ∈ (run window {} events).2.keys ↔ Lingers window events key := by
  induction events using List.reverseRecOn with
  | nil => exact iff_of_false List.not_mem_nil not_underway_nil
  | append_singleton past last ih =>
    rw [run_concat_snd, step_keys, List.mem_filter, Option.isNone_iff_eq_none, verdict_eq_none_iff,
      drops_run_iff, Lingers, underway_concat, ← Lingers, ← ih, ← or_and_right, receive,
      List.mem_append, Option.mem_toList, or_comm]

/-! ## Rooms without an invite -/

def Uninvited (room : RoomId) (events : List Event) : Prop :=
  ∀ event ∈ events, event ≠ .close ∧ ∀ sender now, event ≠ .invite room sender now

theorem not_clears_of_uninvited (h : Uninvited room (past ++ [event])) :
    ¬ Clears window past event room := by
  rintro (rfl | ⟨_, _, sender, invited, hHeld, _⟩)
  · exact (h .close List.mem_concat_self).1 rfl
  · exact (h _ (List.mem_append_left _ hHeld.mem)).2 sender invited rfl

theorem step_keys_of_room (h : ¬ Drops window waiting event room) :
    (waiting.step window event).2.keys.filter (·.info.room == room) =
      (waiting.receive event).keys.filter (·.info.room == room) := by
  rw [step_keys]
  refine filter_of_room fun key hKey => ?_
  obtain rfl := hKey
  rw [verdict_eq_none_iff.mpr h]
  rfl

theorem keys_of_uninvited (h : Uninvited room events) :
    (run window {} events).2.keys.filter (·.info.room == room) =
      (events.filterMap Event.arrival?).filter (·.info.room == room) := by
  induction events using List.reverseRecOn with
  | nil => rfl
  | append_singleton past last ih =>
    have hKept : ¬ Drops window (run window {} past).2 last room :=
      mt drops_run_iff.mp (not_clears_of_uninvited h)
    have hPast : Uninvited room past := fun event hEvent => h event (List.mem_append_left _ hEvent)
    have hLast : [last].filterMap Event.arrival? = last.arrival?.toList := by
      cases hArrival : last.arrival? <;> simp [hArrival]
    rw [run_concat_snd, step_keys_of_room hKept, receive, List.filter_append, ih hPast,
      List.filterMap_append, List.filter_append, hLast]

/-! ## Passes -/

theorem invites_in_time {now : Nat} (hPass : event.passTime? = some now)
    (hInvite : invite ∈ (run window {} (past ++ [event])).2.invites) :
    ((invite.receivedAt : Int) - now).natAbs < window := by
  obtain rfl | ⟨_, hHeld⟩ := since_concat.mp (mem_run_invites.mp hInvite)
  · cases hPass
  · exact Nat.lt_of_not_le fun hOut => hHeld (.inr ⟨now, hPass, hOut⟩)

theorem holdsInTime_iff_not_outstays : HoldsInTime window events ↔ ¬ Outstays window events := by
  constructor
  · rintro h ⟨past, event, rest, now, key, hRun, hPass, hLingers, hOut⟩
    have hKey := (h past event rest now hRun hPass).keys key (mem_run_keys.mpr hLingers)
    exact Nat.not_lt_of_le hOut hKey
  · intro h past event rest now hRun hPass
    refine ⟨fun invite => invites_in_time hPass, fun key hKey => ?_⟩
    refine Nat.lt_of_not_le fun hOut => h ?_
    exact ⟨past, event, rest, now, key, hRun, hPass, mem_run_keys.mp hKey, hOut⟩

/-- The invites that a pass leaves are in time, but the keys just if none outstays the window. The keys of
a room to which no invite comes wait on, all of them, whatever passes are made. -/
theorem held_in_time_unless_outstayed (window : Nat) (events : List Event) :
    (∀ past event rest (now : Nat), events = past ++ event :: rest → event.passTime? = some now →
      ∀ invite ∈ (run window {} (past ++ [event])).2.invites,
        ((invite.receivedAt : Int) - now).natAbs < window) ∧
    (HoldsInTime window events ↔ ¬ Outstays window events) ∧
    ∀ room, Uninvited room events → (run window {} events).2.keys.filter (·.info.room == room) =
      (events.filterMap Event.arrival?).filter (·.info.room == room) :=
  ⟨fun _ _ _ _ _ hPass _ => invites_in_time hPass, holdsInTime_iff_not_outstays,
    fun _ => keys_of_uninvited⟩

namespace Sample

/-- A key for which no invite comes in time. A clock that runs back brings it to light. -/
def forgotten : List Event :=
  [.add Sample.key .bob identityText (.ok [bobDevice]) 0 0, .process 700, .invite .lobby .bob 100,
    .process 100]

end Sample

open Sample in
/-- The pass at 700 leaves the key, so that the pass at 100 can accept it. -/
theorem forgotten_key_outstays : ¬ HoldsInTime 600 forgotten ∧
    (run 600 {} forgotten).1[3]? = some [Sample.key] := by
  refine ⟨fun h => ?_, by decide⟩
  have hPass := h [.add Sample.key .bob identityText (.ok [bobDevice]) 0 0] (.process 700) _ 700 rfl rfl
  have hKey := hPass.keys ⟨Sample.key, .bob, 0⟩ (by decide)
  exact absurd hKey (by decide)

end DeviceTrust.WaitingRoom
