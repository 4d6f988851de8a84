import DeviceTrust.Proofs.RoomKey.Matching
/-! # What becomes of waiting keys

Every key that is handed in and belongs to its sender waits, was accepted by one event, or was dropped by
one. The room holds just the keys that wait, and a pass accepts just those that it is the fate of, in the
order of their arrival. A decided fate stays as it is.
-/

namespace DeviceTrust.WaitingRoom

/-- What becomes of a key, where events are counted from the start of a run. -/
inductive Fate where
  | waits
  | accepted (event : Nat)
  | dropped (event : Nat)
  deriving DecidableEq

def Fate.later : Fate → Fate
  | waits => waits
  | accepted event => accepted (event + 1)
  | dropped event => dropped (event + 1)

def Event.arrival? : Event → Option WaitingKey
  | .add info sender senderKey (.ok devices) arrival _ =>
    if Owns sender senderKey devices then some ⟨info, sender, arrival⟩ else none
  | _ => none

/-- The clock reading of the pass that an event makes. A key that is not held on to makes none. -/
def Event.passTime? : Event → Option Nat
  | .add _ sender senderKey (.ok devices) _ now =>
    if Owns sender senderKey devices then some now else none
  | .process now => some now
  | _ => none

def Event.isClose : Event → Bool
  | .close => true
  | _ => false

def receive (waiting : WaitingRoom) (event : Event) : WaitingRoom :=
  { waiting with keys := waiting.keys ++ event.arrival?.toList }

/-- Whether an event accepts a key that waits or drops it. Else it goes on to wait. -/
def verdict (window : Nat) (waiting : WaitingRoom) (event : Event) (key : WaitingKey) :
    Option Bool :=
  match event.passTime? with
  | some now =>
    (inviteFor? (waiting.liveInvites window now) key).map fun invite => accepts window invite key
  | none => if event.isClose then some false else none

def fate (window : Nat) (key : WaitingKey) : WaitingRoom → List Event → Fate
  | _, [] => .waits
  | waiting, event :: rest =>
    match waiting.verdict window event key with
    | some true => .accepted 0
    | some false => .dropped 0
    | none => (fate window key (waiting.step window event).2 rest).later

def handedIn (window : Nat) : WaitingRoom → List Event → List (WaitingKey × Fate)
  | _, [] => []
  | waiting, event :: rest =>
    event.arrival?.toList.map (fun key => (key, fate window key waiting (event :: rest))) ++
      (handedIn window (waiting.step window event).2 rest).map fun entry => (entry.1, entry.2.later)

/-- What becomes of all keys, of those that wait already and of those that the run brings. -/
def ledger (window : Nat) (waiting : WaitingRoom) (events : List Event) : List (WaitingKey × Fate) :=
  waiting.keys.map (fun key => (key, fate window key waiting events)) ++
    handedIn window waiting events

variable {window now : Nat} {invites : List Invite} {invite : Invite} {keys : List WaitingKey}
  {key : WaitingKey} {waiting next : WaitingRoom} {event : Event} {events rest : List Event}
  {room : RoomId}

/-! ## One pass -/

theorem takeOut_snd_eq : (takeOut window invites keys).2 =
    keys.filter fun key => (inviteFor? invites key).isNone := by
  rw [takeOut_snd]
  refine List.filter_congr fun key _ => Bool.eq_iff_iff.mpr ?_
  rw [inviteFor?, Option.isNone_iff_eq_none, List.find?_eq_none, List.all_eq_true]
  refine forall₂_congr fun invite _ => ?_
  rw [bne_iff_ne, beq_iff_eq, ne_comm]

theorem takeOut_fst_of_room : (takeOut window invites keys).1.filter (·.room == room) =
    (keys.filter fun key => isTaken window invites key && key.info.room == room).map (·.info) := by
  induction invites generalizing keys with
  | nil => simp [takeOut, isTaken, inviteFor?]
  | cons invite rest ih =>
    have hSplit : (takeOut window (invite :: rest) keys).1.filter (·.room == room) =
        (keys.filter fun key => key.info.room == room && (accepts window invite key &&
          key.info.room == invite.room)).map (·.info) ++
        (keys.filter fun key => (isTaken window rest key && key.info.room == room) &&
          key.info.room != invite.room).map (·.info) := by
      simp only [takeOut, List.filter_append, ih, List.filter_map, List.filter_filter]
      rfl
    rw [hSplit]
    by_cases hRoom : room = invite.room
    -- The invite takes all keys of its room, so nothing is left of them for later invites.
    · subst hRoom
      have hNone : (keys.filter fun key => (isTaken window rest key && key.info.room == invite.room) &&
          key.info.room != invite.room) = [] := by
        simp [List.filter_eq_nil_iff]
      rw [hNone, List.map_nil, List.append_nil]
      refine congrArg (List.map _) (List.filter_congr fun key _ => ?_)
      by_cases hKey : key.info.room = invite.room
      · simp [hKey, isTaken_cons_of_room hKey]
      · simp [beq_false_of_ne hKey]
    · have hNone : (keys.filter fun key => key.info.room == room && (accepts window invite key &&
          key.info.room == invite.room)) = [] := by
        simp +contextual [List.filter_eq_nil_iff, hRoom]
      rw [hNone, List.map_nil, List.nil_append]
      refine congrArg (List.map _) (List.filter_congr fun key _ => ?_)
      by_cases hKey : key.info.room = invite.room
      · simp [hKey, Ne.symm hRoom]
      · simp [hKey, isTaken_cons_of_ne hKey]

theorem filter_of_room {keeps : WaitingKey → Bool}
    (h : ∀ key, key.info.room = room → keeps key = true) :
    (keys.filter keeps).filter (·.info.room == room) = keys.filter (·.info.room == room) := by
  rw [List.filter_filter]
  refine List.filter_congr fun key _ => ?_
  rw [Bool.and_eq_left_iff_imp]
  exact fun hRoom => h key (beq_iff_eq.mp hRoom)

theorem process_keys : (process window waiting now).2.keys =
    waiting.keys.filter fun key => (inviteFor? (waiting.liveInvites window now) key).isNone :=
  takeOut_snd_eq

theorem process_fst_of_room : (process window waiting now).1.filter (·.room == room) =
    (waiting.keys.filter fun key =>
      isTaken window (waiting.liveInvites window now) key && key.info.room == room).map (·.info) :=
  takeOut_fst_of_room

/-! ## One event -/

inductive Stepped (window : Nat) (waiting : WaitingRoom) (event : Event) :
    List RoomKeyInfo × WaitingRoom → Prop
  | closed (hClose : event.isClose = true) (hPass : event.passTime? = none)
    (hArrival : event.arrival? = none) : Stepped window waiting event ([], {})
  | passed {now : Nat} (hPass : event.passTime? = some now) :
    Stepped window waiting event ((waiting.receive event).process window now)
  | stayed {next : WaitingRoom} (hClose : event.isClose = false) (hPass : event.passTime? = none)
    (hArrival : event.arrival? = none) (hKeys : next.keys = waiting.keys) :
    Stepped window waiting event ([], next)

theorem stepped (window : Nat) (waiting : WaitingRoom) (event : Event) :
    Stepped window waiting event (waiting.step window event) := by
  cases event with
  | add info sender senderKey download arrival now =>
    cases download with
    | error error => exact .stayed rfl rfl rfl rfl
    | ok devices =>
      by_cases hOwns : Owns sender senderKey devices
      · have hArrival : (Event.add info sender senderKey (.ok devices) arrival now).arrival? =
            some ⟨info, sender, arrival⟩ := if_pos hOwns
        have hStep : waiting.step window (.add info sender senderKey (.ok devices) arrival now) =
            (waiting.receive (.add info sender senderKey (.ok devices) arrival now)).process window
              now := by
          rw [receive, hArrival]
          exact step_of_owns hOwns
        rw [hStep]
        exact .passed (if_pos hOwns)
      · rw [step_of_not_owns hOwns]
        exact .stayed rfl (if_neg hOwns) (if_neg hOwns) rfl
  | invite room sender now => exact .stayed rfl rfl rfl rfl
  | process now =>
    have hReceive : waiting.receive (.process now) = waiting := by simp [receive, Event.arrival?]
    have hStep : Stepped window waiting (.process now)
        ((waiting.receive (.process now)).process window now) := .passed rfl
    rwa [hReceive] at hStep
  | close => exact .closed rfl rfl rfl

theorem verdict_of_pass (hPass : event.passTime? = some now) (key : WaitingKey) :
    waiting.verdict window event key =
      (inviteFor? (waiting.liveInvites window now) key).map fun invite =>
        accepts window invite key := by
  rw [verdict, hPass]

theorem verdict_of_close (hPass : event.passTime? = none) (hClose : event.isClose = true)
    (key : WaitingKey) : waiting.verdict window event key = some false := by
  rw [verdict, hPass]
  exact if_pos hClose

theorem verdict_of_rest (hPass : event.passTime? = none) (hClose : event.isClose = false)
    (key : WaitingKey) : waiting.verdict window event key = none := by
  rw [verdict, hPass]
  exact if_neg (Bool.eq_false_iff.mp hClose)

theorem receive_keys_of_none (hArrival : event.arrival? = none) :
    (waiting.receive event).keys = waiting.keys := by
  rw [receive, hArrival]
  exact List.append_nil _

theorem step_keys (window : Nat) (waiting : WaitingRoom) (event : Event) :
    (waiting.step window event).2.keys =
      (waiting.receive event).keys.filter fun key => (waiting.verdict window event key).isNone := by
  have hStepped := stepped window waiting event
  generalize waiting.step window event = result at hStepped ⊢
  cases hStepped with
  | closed hClose hPass =>
    simp [verdict_of_close hPass hClose]
  | passed hPass =>
    simp only [verdict_of_pass hPass, Option.isNone_map]
    exact process_keys
  | stayed hClose hPass hArrival hKeys =>
    simp [verdict_of_rest hPass hClose, hKeys, receive_keys_of_none hArrival]

theorem step_accepted_of_room (window : Nat) (waiting : WaitingRoom) (event : Event) (room : RoomId) :
    (waiting.step window event).1.filter (·.room == room) =
      ((waiting.receive event).keys.filter fun key =>
        waiting.verdict window event key == some true && key.info.room == room).map (·.info) := by
  have hStepped := stepped window waiting event
  generalize waiting.step window event = result at hStepped ⊢
  cases hStepped with
  | closed hClose hPass =>
    simp [verdict_of_close hPass hClose]
  | @passed now hPass =>
    have hTaken (key : WaitingKey) : (waiting.verdict window event key == some true) =
        isTaken window (waiting.liveInvites window now) key := by
      rw [verdict_of_pass hPass, isTaken]
      cases inviteFor? (waiting.liveInvites window now) key <;> simp
    simp only [hTaken]
    exact process_fst_of_room
  | stayed hClose hPass =>
    simp [verdict_of_rest hPass hClose]

/-! ## Runs -/

theorem fate_cons_of_some {accepted : Bool} (h : waiting.verdict window event key = some accepted) :
    fate window key waiting (event :: rest) = if accepted then .accepted 0 else .dropped 0 := by
  rw [fate, h]
  cases accepted <;> rfl

theorem fate_cons_of_none (h : waiting.verdict window event key = none) :
    fate window key waiting (event :: rest) =
      (fate window key (waiting.step window event).2 rest).later := by
  rw [fate, h]

theorem ledger_cons : ledger window waiting (event :: rest) =
    (waiting.receive event).keys.map (fun key => (key, fate window key waiting (event :: rest))) ++
      (handedIn window (waiting.step window event).2 rest).map
        fun entry => (entry.1, entry.2.later) := by
  rw [ledger, handedIn, receive, List.map_append, List.append_assoc]

/-- What an event leaves undecided is decided by the rest of the run. -/
theorem filter_ledger_cons {isMeant : WaitingKey × Fate → Bool}
    (hAccepted : ∀ key, isMeant (key, .accepted 0) = false)
    (hDropped : ∀ key, isMeant (key, .dropped 0) = false) :
    ((ledger window waiting (event :: rest)).filter isMeant).map (·.1) =
      ((ledger window (waiting.step window event).2 rest).filter fun entry =>
        isMeant (entry.1, entry.2.later)).map (·.1) := by
  have hKeys : (waiting.receive event).keys.filter
      (fun key => isMeant (key, fate window key waiting (event :: rest))) =
      (waiting.step window event).2.keys.filter fun key =>
        isMeant (key, (fate window key (waiting.step window event).2 rest).later) := by
    rw [step_keys, List.filter_filter]
    refine List.filter_congr fun key _ => ?_
    cases hVerdict : waiting.verdict window event key with
    | none => rw [fate_cons_of_none hVerdict, Option.isNone_none, Bool.and_true]
    | some accepted =>
      rw [fate_cons_of_some hVerdict]
      cases accepted <;> simp [hAccepted, hDropped]
  rw [ledger_cons, ledger]
  simp only [List.filter_append, List.filter_map, List.map_append, List.map_map]
  exact congrArg₂ (· ++ ·) (congrArg (List.map fun key => key) hKeys) rfl

theorem Fate.later_beq_waits (f : Fate) : (f.later == .waits) = (f == .waits) := by
  cases f <;> rfl

theorem Fate.later_beq_accepted (f : Fate) (j : Nat) :
    (f.later == .accepted (j + 1)) = (f == .accepted j) := by
  cases f with
  | accepted event => simp [later]
  | _ => rfl

theorem Fate.later_beq_accepted_zero (f : Fate) : (f.later == .accepted 0) = false := by
  cases f with
  | accepted event => simp [later]
  | _ => rfl

theorem fate_cons_beq_accepted_zero (window : Nat) (key : WaitingKey) (waiting : WaitingRoom)
    (event : Event) (rest : List Event) :
    (fate window key waiting (event :: rest) == .accepted 0) =
      (waiting.verdict window event key == some true) := by
  cases hVerdict : waiting.verdict window event key with
  | none =>
    rw [fate_cons_of_none hVerdict, Fate.later_beq_accepted_zero]
    rfl
  | some accepted =>
    rw [fate_cons_of_some hVerdict]
    cases accepted <;> rfl

theorem run_keys (window : Nat) (waiting : WaitingRoom) (events : List Event) :
    (waiting.run window events).2.keys =
      ((ledger window waiting events).filter (·.2 == .waits)).map (·.1) := by
  induction events generalizing waiting with
  | nil => simp [run, ledger, handedIn, fate, List.filter_map, Function.comp_def]
  | cons event rest ih =>
    rw [filter_ledger_cons (fun _ => rfl) fun _ => rfl]
    simp only [Fate.later_beq_waits]
    exact ih _

/-- An event accepts of each room just the keys that it is the fate of, in the order of arrival. -/
theorem run_accepted_of_room (window : Nat) (waiting : WaitingRoom) (events : List Event) (j : Nat)
    (room : RoomId) : ((waiting.run window events).1.getD j []).filter (·.room == room) =
      ((ledger window waiting events).filter fun entry =>
        entry.2 == .accepted j && entry.1.info.room == room).map (·.1.info) := by
  induction events generalizing waiting j with
  | nil => simp [run, ledger, handedIn, fate, List.filter_map, Function.comp_def]
  | cons event rest ih =>
    cases j with
    | zero =>
      have hFirst : (waiting.run window (event :: rest)).1.getD 0 [] =
          (waiting.step window event).1 := rfl
      rw [hFirst, step_accepted_of_room, ledger_cons]
      simp [List.filter_map, Function.comp_def, fate_cons_beq_accepted_zero,
        Fate.later_beq_accepted_zero]
    | succ j =>
      have hRest : ((ledger window waiting (event :: rest)).filter fun entry =>
          entry.2 == .accepted (j + 1) && entry.1.info.room == room).map (·.1) = _ :=
        filter_ledger_cons (fun _ => rfl) fun _ => rfl
      have hInfos := congrArg (List.map (·.info)) hRest
      simp only [List.map_map, Fate.later_beq_accepted] at hInfos
      exact (ih _ j).trans hInfos.symm

theorem map_fst_handedIn (window : Nat) (waiting : WaitingRoom) (events : List Event) :
    (handedIn window waiting events).map (·.1) = events.filterMap Event.arrival? := by
  induction events generalizing waiting with
  | nil => rfl
  | cons event rest ih =>
    have hRest := ih (waiting.step window event).2
    cases hArrival : event.arrival? with
    | none => simpa [handedIn, hArrival, List.filterMap_cons, Function.comp_def] using hRest
    | some key => simpa [handedIn, hArrival, List.filterMap_cons, Function.comp_def] using hRest

/-! ## Drops -/

/-- A key of that room may be dropped by the event: it closes the room, or its pass keeps an invite to
the room. -/
def Drops (window : Nat) (waiting : WaitingRoom) (event : Event) (room : RoomId) : Prop :=
  event = .close ∨ ∃ now, event.passTime? = some now ∧
    ∃ invite ∈ waiting.liveInvites window now, invite.room = room

theorem drops_of_verdict (h : waiting.verdict window event key = some false) :
    Drops window waiting event key.info.room := by
  cases hPass : event.passTime? with
  | some now =>
    rw [verdict_of_pass hPass] at h
    obtain ⟨invite, hInvite, _⟩ := Option.map_eq_some_iff.mp h
    obtain ⟨hMem, hRoom⟩ := mem_of_inviteFor? hInvite
    exact .inr ⟨now, hPass, invite, hMem, hRoom⟩
  | none =>
    cases event with
    | close => exact .inl rfl
    | _ => simp [verdict, hPass, Event.isClose] at h

theorem drops_of_fate {j : Nat} (h : fate window key waiting events = .dropped j) :
    ∃ event, events[j]? = some event ∧
      Drops window (waiting.run window (events.take j)).2 event key.info.room := by
  induction events generalizing waiting j with
  | nil => cases h
  | cons event rest ih =>
    cases hVerdict : waiting.verdict window event key with
    | none =>
      rw [fate_cons_of_none hVerdict] at h
      cases hRest : fate window key (waiting.step window event).2 rest with
      | dropped event =>
        rw [hRest] at h
        cases h
        exact ih hRest
      | _ =>
        rw [hRest] at h
        cases h
    | some accepted =>
      rw [fate_cons_of_some hVerdict] at h
      cases accepted with
      | true => cases h
      | false =>
        cases h
        exact ⟨event, rfl, drops_of_verdict hVerdict⟩

theorem drops_of_handedIn {j : Nat} (h : (key, .dropped j) ∈ handedIn window waiting events) :
    ∃ event, events[j]? = some event ∧
      Drops window (waiting.run window (events.take j)).2 event key.info.room := by
  induction events generalizing waiting j with
  | nil => cases h
  | cons event rest ih =>
    rw [handedIn, List.mem_append, List.mem_map, List.mem_map] at h
    rcases h with ⟨_, _, hEntry⟩ | ⟨⟨_, found⟩, hRest, hEntry⟩
    · obtain ⟨rfl, hFate⟩ := Prod.mk.inj hEntry
      exact drops_of_fate hFate
    · obtain ⟨rfl, hFate⟩ := Prod.mk.inj hEntry
      cases found with
      | dropped event =>
        cases hFate
        exact ih hRest
      | _ => cases hFate

/-! ## Later events -/

theorem fate_append {more : List Event} (h : fate window key waiting events ≠ .waits) :
    fate window key waiting (events ++ more) = fate window key waiting events := by
  induction events generalizing waiting with
  | nil => exact absurd rfl h
  | cons event rest ih =>
    rw [List.cons_append]
    cases hVerdict : waiting.verdict window event key with
    | none =>
      rw [fate_cons_of_none hVerdict] at h
      rw [fate_cons_of_none hVerdict, fate_cons_of_none hVerdict, ih]
      intro hWaits
      rw [hWaits] at h
      exact h rfl
    | some accepted => rw [fate_cons_of_some hVerdict, fate_cons_of_some hVerdict]

theorem handedIn_append {more : List Event} {i : Nat} {f : Fate}
    (h : (handedIn window waiting events)[i]? = some (key, f)) :
    ∃ g, (handedIn window waiting (events ++ more))[i]? = some (key, g) ∧ (f ≠ .waits → g = f) := by
  induction events generalizing waiting i f with
  | nil => cases h
  | cons event rest ih =>
    have hTail {i : Nat} {f : Fate}
        (hRest : ((handedIn window (waiting.step window event).2 rest).map
          fun entry => (entry.1, entry.2.later))[i]? = some (key, f)) :
        ∃ g, ((handedIn window (waiting.step window event).2 (rest ++ more)).map
          fun entry => (entry.1, entry.2.later))[i]? = some (key, g) ∧ (f ≠ .waits → g = f) := by
      rw [List.getElem?_map, Option.map_eq_some_iff] at hRest
      obtain ⟨⟨_, found⟩, hFound, hEntry⟩ := hRest
      obtain ⟨rfl, rfl⟩ := Prod.mk.inj hEntry
      obtain ⟨g, hMore, hSame⟩ := ih hFound
      refine ⟨g.later, by rw [List.getElem?_map, hMore]; rfl, fun hLater => ?_⟩
      exact congrArg Fate.later (hSame fun hWaits => hLater (congrArg Fate.later hWaits))
    rw [handedIn] at h
    rw [List.cons_append, handedIn]
    cases hArrival : event.arrival? with
    | none =>
      rw [hArrival] at h
      exact hTail h
    | some arrived =>
      rw [hArrival] at h
      cases i with
      | zero =>
        obtain ⟨rfl, rfl⟩ := Prod.mk.inj (Option.some.inj h)
        exact ⟨_, rfl, fate_append⟩
      | succ i => exact hTail h

/-! ## Passes -/

def Cleared (waiting : WaitingRoom) : Prop :=
  ∀ invite ∈ waiting.invites, ∀ key ∈ waiting.keys, key.info.room ≠ invite.room

theorem cleared_process (window : Nat) (waiting : WaitingRoom) (now : Nat) :
    Cleared (process window waiting now).2 := by
  intro invite hInvite key hKey hRoom
  rw [process_keys, List.mem_filter, Option.isNone_iff_eq_none, inviteFor?,
    List.find?_eq_none] at hKey
  exact hKey.2 invite hInvite (beq_iff_eq.mpr hRoom.symm)

theorem Cleared.process_fst (h : Cleared waiting) (now : Nat) : (process window waiting now).1 = [] := by
  refine List.eq_nil_iff_forall_not_mem.mpr fun info hInfo => ?_
  obtain ⟨invite, hInvite, key, hKey, rfl, hRoom, _⟩ := of_mem_process_fst hInfo
  exact h invite hInvite key hKey hRoom

theorem Cleared.run_passes (h : Cleared waiting) (times : List Nat) :
    ∀ accepted ∈ (waiting.run window (times.map .process)).1, accepted = [] := by
  induction times generalizing waiting with
  | nil =>
    intro accepted hAccepted
    cases hAccepted
  | cons now rest ih =>
    intro accepted hAccepted
    cases hAccepted with
    | head => exact h.process_fst now
    | tail _ hRest => exact ih (cleared_process window waiting now) accepted hRest

theorem process_keys_of_room
    (h : ∀ invite ∈ (process window waiting now).2.invites, invite.room ≠ room) :
    (process window waiting now).2.keys.filter (·.info.room == room) =
      waiting.keys.filter (·.info.room == room) := by
  rw [process_keys]
  refine filter_of_room fun key hKey => ?_
  rw [Option.isNone_iff_eq_none, inviteFor?, List.find?_eq_none]
  intro invite hInvite hRoom
  exact h invite hInvite ((beq_iff_eq.mp hRoom).trans hKey)

theorem step_of_refused {info : RoomKeyInfo} {sender : UserId} {senderKey : String}
    {download : Except StoreError (List Device)} {arrival : Nat}
    (h : ∀ devices, download = .ok devices → ¬ Owns sender senderKey devices) :
    waiting.step window (.add info sender senderKey download arrival now) = ([], waiting) := by
  cases download with
  | error error => rfl
  | ok devices => exact step_of_not_owns (h devices rfl)

/-! ## Conservation -/

/-- The books of a run balance. Each key that was handed in has one fate: it waits, or one event accepted
it, or one dropped it that may do so. What has a fate keeps it, however the run goes on. -/
structure Conserved (window : Nat) (events : List Event) : Prop where
  arrivals : (handedIn window {} events).map (·.1) = events.filterMap Event.arrival?
  waiting : (run window {} events).2.keys =
    ((handedIn window {} events).filter (·.2 == .waits)).map (·.1)
  accepted : ∀ j room, ((run window {} events).1.getD j []).filter (·.room == room) =
    ((handedIn window {} events).filter fun entry =>
      entry.2 == .accepted j && entry.1.info.room == room).map (·.1.info)
  dropped : ∀ j key, (key, .dropped j) ∈ handedIn window {} events →
    ∃ event, events[j]? = some event ∧
      Drops window (run window {} (events.take j)).2 event key.info.room
  settled : ∀ (more : List Event) (i : Nat) key (f : Fate),
    (handedIn window {} events)[i]? = some (key, f) →
    ∃ g, (handedIn window {} (events ++ more))[i]? = some (key, g) ∧ (f ≠ .waits → g = f)

/-- A pass clears just the rooms that it keeps an invite to, so that further passes accept nothing. -/
structure ClearsInvited (window : Nat) (waiting : WaitingRoom) (now : Nat) : Prop where
  kept : ∀ room, (∀ invite ∈ (process window waiting now).2.invites, invite.room ≠ room) →
    (process window waiting now).2.keys.filter (·.info.room == room) =
      waiting.keys.filter (·.info.room == room)
  cleared : Cleared (process window waiting now).2
  silent : ∀ times : List Nat, ∀ accepted ∈
    ((process window waiting now).2.run window (times.map .process)).1, accepted = []

theorem conserved (window : Nat) (events : List Event) : Conserved window events where
  arrivals := map_fst_handedIn window {} events
  waiting := run_keys window {} events
  accepted := run_accepted_of_room window {} events
  dropped _ _ := drops_of_handedIn
  settled _ _ _ _ := handedIn_append

theorem clearsInvited (window : Nat) (waiting : WaitingRoom) (now : Nat) :
    ClearsInvited window waiting now where
  kept _ := process_keys_of_room
  cleared := cleared_process window waiting now
  silent := (cleared_process window waiting now).run_passes

/-- No key is lost or accepted twice in any run. Passes clear just the rooms with a live invite, and a
key that is not held on to changes nothing. -/
theorem keys_are_conserved (window : Nat) :
    (∀ events, Conserved window events) ∧ (∀ waiting now, ClearsInvited window waiting now) ∧
      ∀ waiting info sender senderKey download arrival now,
        (∀ devices, download = .ok devices → ¬ Owns sender senderKey devices) →
        step window waiting (.add info sender senderKey download arrival now) = ([], waiting) :=
  ⟨conserved window, clearsInvited window, fun _ _ _ _ _ _ _ => step_of_refused⟩

end DeviceTrust.WaitingRoom
