import DeviceTrust.Proofs.RoomKey.Fates
/-! # Rooms are apart

The keys and invites of all rooms wait together, and a key that arrives for one room makes a pass over
all of them. What is accepted for a room still depends on nothing but its own keys and invites and on
when the passes are made: a run in which the other rooms are left out, but for the passes that they
cause, accepts the same keys of the room in the same order.
-/

namespace DeviceTrust.WaitingRoom

/-- What is left of an event for one room. A key of another room that is held on to still makes its
pass; an invite to another room and a key that is not held on to do nothing. -/
def Event.only (room : RoomId) (event : Event) : Option Event :=
  match event with
  | .add info .. => if info.room = room then some event else event.passTime?.map .process
  | .invite other .. => if other = room then some event else none
  | .process _ | .close => some event

def ofRoom (waiting : WaitingRoom) (room : RoomId) : WaitingRoom :=
  ⟨waiting.keys.filter (·.info.room == room), waiting.invites.filter (·.room == room)⟩

variable {window now : Nat} {waiting : WaitingRoom} {room : RoomId}
  {invites : List Invite} {key : WaitingKey}

/-! ## One pass -/

theorem inviteFor?_of_room (hKey : key.info.room = room) :
    inviteFor? (invites.filter (·.room == room)) key = inviteFor? invites key := by
  rw [inviteFor?, inviteFor?, List.find?_filter]
  refine congrArg (invites.find? ·) (funext fun invite => ?_)
  simp only [hKey, and_self, Bool.decide_eq_true]

theorem isTaken_of_room (hKey : key.info.room = room) :
    isTaken window (invites.filter (·.room == room)) key = isTaken window invites key := by
  rw [isTaken, isTaken, inviteFor?_of_room hKey]

theorem liveInvites_ofRoom : (waiting.ofRoom room).liveInvites window now =
    (waiting.liveInvites window now).filter (·.room == room) :=
  List.filter_comm _ _ _

theorem process_ofRoom_fst : ((waiting.ofRoom room).process window now).1 =
    (waiting.process window now).1.filter (·.room == room) := by
  have hOwn : ((waiting.ofRoom room).process window now).1.filter (·.room == room) =
      ((waiting.ofRoom room).process window now).1 := by
    refine List.filter_eq_self.mpr fun info hInfo => ?_
    obtain ⟨_, _, key, hKey, rfl, _⟩ := of_mem_process_fst hInfo
    exact (List.mem_filter.mp hKey).2
  rw [← hOwn, process_fst_of_room, process_fst_of_room, liveInvites_ofRoom, ofRoom,
    List.filter_filter]
  refine congrArg (List.map _) (List.filter_congr fun key _ => ?_)
  by_cases hKey : key.info.room = room
  · rw [isTaken_of_room hKey]
    simp [hKey]
  · simp [beq_false_of_ne hKey]

theorem process_ofRoom_snd : ((waiting.ofRoom room).process window now).2 =
    (waiting.process window now).2.ofRoom room := by
  refine congr (congrArg WaitingRoom.mk ?_) liveInvites_ofRoom
  show ((waiting.ofRoom room).process window now).2.keys = _
  rw [process_keys, process_keys, liveInvites_ofRoom, ofRoom, List.filter_filter, List.filter_filter]
  refine List.filter_congr fun key _ => ?_
  by_cases hKey : key.info.room = room
  · rw [inviteFor?_of_room hKey]
    exact Bool.and_comm _ _
  · simp [beq_false_of_ne hKey]

theorem process_ofRoom : (waiting.ofRoom room).process window now =
    ((waiting.process window now).1.filter (·.room == room),
      (waiting.process window now).2.ofRoom room) :=
  Prod.ext process_ofRoom_fst process_ofRoom_snd

/-! ## One event -/

def stepFor (window : Nat) (waiting : WaitingRoom) (event : Event) (room : RoomId) :
    List RoomKeyInfo × WaitingRoom :=
  ((waiting.step window event).1.filter (·.room == room),
    (waiting.step window event).2.ofRoom room)

theorem ofRoom_append_own {info : RoomKeyInfo} {sender : UserId} {arrival : Nat}
    (h : info.room = room) :
    ofRoom { waiting with keys := waiting.keys ++ [⟨info, sender, arrival⟩] } room =
      { waiting.ofRoom room with keys := (waiting.ofRoom room).keys ++ [⟨info, sender, arrival⟩] } := by
  simp [ofRoom, h]

theorem ofRoom_append_other {info : RoomKeyInfo} {sender : UserId} {arrival : Nat}
    (h : info.room ≠ room) :
    ofRoom { waiting with keys := waiting.keys ++ [⟨info, sender, arrival⟩] } room =
      waiting.ofRoom room := by
  simp [ofRoom, h]

/-- An event does to one room what is left of the event does to the room alone. -/
theorem stepFor_eq (window : Nat) (waiting : WaitingRoom) (event : Event) (room : RoomId) :
    waiting.stepFor window event room =
      ((event.only room).map ((waiting.ofRoom room).step window)).getD
        ([], waiting.ofRoom room) := by
  cases event with
  | add info sender senderKey download arrival now =>
    by_cases hHeld : ∃ devices, download = .ok devices ∧ Owns sender senderKey devices
    · obtain ⟨devices, rfl, hOwns⟩ := hHeld
      have hPass : (Event.add info sender senderKey (.ok devices) arrival now).passTime? = some now :=
        if_pos hOwns
      rw [stepFor, step_of_owns hOwns, ← process_ofRoom, Event.only, hPass]
      by_cases hRoom : info.room = room
      · rw [if_pos hRoom, ofRoom_append_own hRoom, Option.map_some, step_of_owns hOwns]
        rfl
      · rw [if_neg hRoom, ofRoom_append_other hRoom]
        rfl
    · -- A key that is not held on to changes nothing, with or without the other rooms.
      have hRefused (devices : List Device) (hDownload : download = .ok devices) :
          ¬ Owns sender senderKey devices :=
        fun hOwns => hHeld ⟨devices, hDownload, hOwns⟩
      have hPass : (Event.add info sender senderKey download arrival now).passTime? = none := by
        cases download with
        | error error => rfl
        | ok devices => exact if_neg (hRefused devices rfl)
      rw [stepFor, step_of_refused hRefused, Event.only, hPass]
      by_cases hRoom : info.room = room
      · rw [if_pos hRoom, Option.map_some, step_of_refused hRefused]
        rfl
      · rw [if_neg hRoom]
        rfl
  | invite other sender now =>
    by_cases hRoom : other = room <;> simp [stepFor, step, invite, Event.only, ofRoom, hRoom]
  | process now => exact process_ofRoom.symm
  | close => rfl

/-! ## A whole run -/

def runOnly (room : RoomId) (events : List Event) : List Event := events.filterMap (·.only room)

def acceptedBy (window : Nat) (waiting : WaitingRoom) (events : List Event) : List RoomKeyInfo :=
  (waiting.run window events).1.flatten

theorem acceptedBy_cons (window : Nat) (waiting : WaitingRoom) (event : Event)
    (rest : List Event) : waiting.acceptedBy window (event :: rest) =
      (waiting.step window event).1 ++ (waiting.step window event).2.acceptedBy window rest := rfl

theorem run_cons_snd (window : Nat) (waiting : WaitingRoom) (event : Event) (rest : List Event) :
    (waiting.run window (event :: rest)).2 =
      ((waiting.step window event).2.run window rest).2 := rfl

theorem runOnly_follows (window : Nat) (waiting : WaitingRoom) (room : RoomId)
    (events : List Event) :
    (waiting.ofRoom room).acceptedBy window (runOnly room events) =
        (waiting.acceptedBy window events).filter (·.room == room) ∧
      ((waiting.ofRoom room).run window (runOnly room events)).2 =
        (waiting.run window events).2.ofRoom room := by
  induction events generalizing waiting with
  | nil => exact ⟨rfl, rfl⟩
  | cons event rest ih =>
    obtain ⟨hAccepted, hLeft⟩ := ih (waiting.step window event).2
    have hStep := stepFor_eq window waiting event room
    rw [acceptedBy_cons, run_cons_snd, List.filter_append, ← hAccepted, ← hLeft, runOnly,
      List.filterMap_cons]
    cases hOnly : event.only room with
    | none =>
      rw [hOnly] at hStep
      obtain ⟨hNone, hSame⟩ := Prod.mk.inj hStep
      rw [hNone, hSame]
      exact ⟨rfl, rfl⟩
    | some kept =>
      rw [hOnly] at hStep
      obtain ⟨hSome, hNext⟩ := Prod.mk.inj hStep
      rw [hSome, hNext]
      exact ⟨rfl, rfl⟩

/-- No room can tell what happens in the others. -/
theorem rooms_are_isolated (window : Nat) (room : RoomId) (events : List Event) :
    (acceptedBy window {} (runOnly room events)).filter (·.room == room) =
        (acceptedBy window {} events).filter (·.room == room) ∧
      (∀ info ∈ acceptedBy window {} (runOnly room events), info.room = room) ∧
      (run window {} (runOnly room events)).2 = (run window {} events).2.ofRoom room := by
  have hFollows : acceptedBy window {} (runOnly room events) =
        (acceptedBy window {} events).filter (·.room == room) ∧
      (run window {} (runOnly room events)).2 = (run window {} events).2.ofRoom room :=
    runOnly_follows window {} room events
  obtain ⟨hAccepted, hLeft⟩ := hFollows
  rw [hAccepted]
  refine ⟨?_, fun info hInfo => ?_, hLeft⟩
  · rw [List.filter_filter]
    simp only [Bool.and_self]
  · exact beq_iff_eq.mp (List.mem_filter.mp hInfo).2

end DeviceTrust.WaitingRoom
