import DeviceTrust.Proofs.Manager.Tables
import DeviceTrust.Proofs.Turns
/-! # What lookups leave alone

A lookup of a flow reads the two tables of requests, asks the engine if it finds nothing, and then enters
what the engine knows. While the flow is finished it changes nothing there, unless it has found nothing
before. What it guarantees in each of its accesses is stated apart from what others do in between.
-/

namespace DeviceTrust.Manager

open Operation

variable {σ α β : Type} {m : Manager} {flow : String} {handle : Handle Request}

/-! ## What an access does to a flow -/

def Enters (flow : String) (update : Manager → Manager) : Prop :=
  ∀ m, (update m).tracked[flow]?.isSome

def Spares (flow : String) (update : Manager → Manager) : Prop :=
  ∀ m, (update m).tracked[flow]? = m.tracked[flow]?

structure Respects (flow : String) (update : Manager → Manager) : Prop where
  finished : ∀ m, m.finished[flow]?.isSome → (update m).finished[flow]?.isSome
  filed : ∀ m, m.RequestsFiled → (update m).RequestsFiled

/-- While the flow is finished, the operation does not track anything under the flow id. -/
def Careful (flow : String) : Operation Manager α → Prop
  | .done _ => True
  | .access update next => Respects flow update ∧ Spares flow update ∧
    ∀ m, m.finished[flow]?.isSome → Careful flow (next m)
  | .ask _ next => ∀ answer, Careful flow (next answer)

/-- The operation is careful, except when it comes to track something under the flow id. -/
def Looks (flow : String) : Operation Manager α → Prop
  | .done _ => True
  | .access update next => Respects flow update ∧ (∀ m, Looks flow (next m)) ∧
    (Enters flow update ∨
      Spares flow update ∧ ∀ m, m.finished[flow]?.isSome → Careful flow (next m))
  | .ask _ next => ∀ answer, Looks flow (next answer)

def Entering (flow : String) : Operation Manager α → Prop
  | .access update _ => Enters flow update
  | _ => False

variable {p : Operation Manager α} {k : α → Operation Manager β} {update : Manager → Manager}
  {next : Manager → Operation Manager α} {answer : Collaborators σ} {world : σ}

theorem respects_id : Respects flow id := ⟨fun _ => id, fun _ => id⟩

theorem spares_id : Spares flow id := fun _ => rfl

theorem Looks.careful (h : Looks flow p) (hSettled : p.Settled) (hNot : ¬ Entering flow p) :
    Careful flow p := by
  cases p with
  | done value => trivial
  | access update next =>
    obtain ⟨hRespects, _, hEnters | ⟨hSpares, hCareful⟩⟩ := h
    · exact absurd hEnters hNot
    · exact ⟨hRespects, hSpares, hCareful⟩
  | ask call next => exact hSettled.elim

theorem Careful.settle (h : Careful flow p) (answer : Collaborators σ) (world : σ) :
    Careful flow (p.settle answer world).1 := by
  induction p generalizing world with
  | done value => exact h
  | access update next => exact h
  | ask call next ih => exact ih _ (h _) _

theorem Looks.settle (h : Looks flow p) (answer : Collaborators σ) (world : σ) :
    Looks flow (p.settle answer world).1 := by
  induction p generalizing world with
  | done value => exact h
  | access update next => exact h
  | ask call next ih => exact ih _ (h _) _

theorem Careful.bind (h : Careful flow p) (hNext : ∀ a, Careful flow (k a)) :
    Careful flow (p >>= k) := by
  induction p with
  | done value => exact hNext value
  | access update next ih =>
    exact ⟨h.1, h.2.1, fun m hFinished => ih m (h.2.2 m hFinished)⟩
  | ask call next ih => exact fun answer => ih answer (h answer)

theorem Looks.bind (h : Looks flow p) (hCareful : ∀ a, Careful flow (k a))
    (hNext : ∀ a, Looks flow (k a)) : Looks flow (p >>= k) := by
  induction p with
  | done value => exact hNext value
  | access update next ih =>
    obtain ⟨hRespects, hRest, hKind⟩ := h
    refine ⟨hRespects, fun m => ih m (hRest m),
      hKind.imp_right fun hSpares => ⟨hSpares.1, fun m hFinished => ?_⟩⟩
    exact (hSpares.2 m hFinished).bind hCareful
  | ask call next ih => exact fun answer => ih answer (h answer)

/-! ## Lookups -/

def Command.LooksUp (flow : String) : Command → Prop
  | .incomingRequest _ own => own = flow
  | .keyVerification _ event _ => event.text = flow
  | _ => False

theorem careful_read_bind {view : Manager → α}
    (hNext : ∀ m, m.finished[flow]?.isSome → Careful flow (k (view m))) :
    Careful flow (Operation.read view >>= k) :=
  ⟨respects_id, spares_id, hNext⟩

theorem looks_read_bind {view : Manager → α} (hNext : ∀ m, Looks flow (k (view m)))
    (hCareful : ∀ m, m.finished[flow]?.isSome → Careful flow (k (view m))) :
    Looks flow (Operation.read view >>= k) :=
  ⟨respects_id, hNext, .inr ⟨spares_id, hCareful⟩⟩

/-- A flow that is found is not tracked anew, and a finished flow is found by the second search at the
latest. -/
theorem looks_knownRequest_bind {k : Option (Handle Request) → Operation Manager β}
    (hFound : ∀ handle, ∃ value, k (some handle) = .done value) (hUnknown : Looks flow (k none)) :
    Looks flow (knownRequest flow >>= k) := by
  have hCareful (handle : Handle Request) : Careful flow (k (some handle)) := by
    obtain ⟨value, hDone⟩ := hFound handle
    rw [hDone]
    trivial
  have hLooks (handle : Handle Request) : Looks flow (k (some handle)) := by
    obtain ⟨value, hDone⟩ := hFound handle
    rw [hDone]
    trivial
  have hSecond (m : Manager) : (m.finished[flow]?.isSome → Careful flow (k m.finished[flow]?)) ∧
      Looks flow (k m.finished[flow]?) := by
    cases m.finished[flow]? with
    | none => exact ⟨fun hFinished => (Bool.false_ne_true hFinished).elim, hUnknown⟩
    | some handle => exact ⟨fun _ => hCareful handle, hLooks handle⟩
  rw [knownRequest, bind_assoc]
  refine looks_read_bind (fun m => ?_) (fun m _ => ?_)
  · cases m.tracked[flow]? with
    | none => exact looks_read_bind (fun m => (hSecond m).2) fun m => (hSecond m).1
    | some handle => exact hLooks handle
  · -- A flow that is finished now may still be looked for, but will be found by then.
    cases m.tracked[flow]? with
    | none => exact ⟨respects_id, spares_id, fun m => (hSecond m).1⟩
    | some handle => exact hCareful handle

theorem enters_or_spares_addRequest (info : RequestInfo) (isNew : Bool) :
    Enters flow (fun m => (m.addRequest info isNew).2) ∨
      Spares flow (fun m => (m.addRequest info isNew).2) := by
  by_cases hTracks : (Request.initialState info).isTerminal = false ∧ info.flow.text = flow
  · obtain ⟨hLive, rfl⟩ := hTracks
    refine .inl fun m => ?_
    show (m.addRequest info isNew).2.tracked[info.flow.text]?.isSome
    have hEntered := m.addRequest_entered info isNew
    generalize m.addRequest info isNew = entered at hEntered ⊢
    cases hEntered with
    | remembered hOver => cases hLive.symm.trans hOver
    | tracked =>
      rw [Std.TreeMap.getElem?_insert_self]
      rfl
  · refine .inr fun m => ?_
    show (m.addRequest info isNew).2.tracked[flow]? = m.tracked[flow]?
    have hEntered := m.addRequest_entered info isNew
    generalize m.addRequest info isNew = entered at hEntered ⊢
    cases hEntered with
    | remembered => rfl
    | tracked hLive => exact Table.getElem?_insert_of_ne fun hName => hTracks ⟨hLive, hName⟩

theorem respects_addRequest (info : RequestInfo) (isNew : Bool) :
    Respects flow (fun m => (m.addRequest info isNew).2) := by
  have hBoth (m : Manager) :
      (m.finished[flow]?.isSome → (m.addRequest info isNew).2.finished[flow]?.isSome) ∧
        (m.RequestsFiled → (m.addRequest info isNew).2.RequestsFiled) := by
    have hEntered := m.addRequest_entered info isNew
    generalize m.addRequest info isNew = entered at hEntered ⊢
    cases hEntered with
    | remembered hOver =>
      have hChange : Change (fun _ _ => True) m _ := .remember info trivial hOver
      exact ⟨Table.isSome_getElem?_insert, fun hFiled => hFiled.change hChange⟩
    | tracked hLive =>
      have hChange : Change (fun _ _ => True) m _ := .track info isNew trivial hLive
      exact ⟨id, fun hFiled => hFiled.change hChange⟩
  exact ⟨fun m => (hBoth m).1, fun m => (hBoth m).2⟩

theorem looks_enter (info : RequestInfo) (isNew : Bool) {k : Handle Request → β} :
    Looks flow (Operation.atomically (·.addRequest info isNew) >>= fun handle => .done (k handle)) := by
  refine ⟨respects_addRequest info isNew, fun _ => trivial, ?_⟩
  exact (enters_or_spares_addRequest info isNew).imp_right fun hSpares => ⟨hSpares, fun _ _ => trivial⟩

theorem settle_leaves_alone (event : EventId) (answer : Except TransportError (List HistoryEvent)) :
    Respects flow (fun m => { m with archive := (m.archive.settle event answer).2 }) ∧
      Spares flow (fun m => { m with archive := (m.archive.settle event answer).2 }) :=
  ⟨⟨fun _ => id, fun _ hFiled => ⟨hFiled.tracked, hFiled.finished⟩⟩, fun _ => rfl⟩

theorem careful_resolve (event : EventId) (room : RoomId) : Careful flow (resolve event room) := by
  rw [resolve]
  refine careful_read_bind fun m _ => ?_
  cases m.archive.outcome? event with
  | some outcome => trivial
  | none =>
    intro answer
    obtain ⟨hRespects, hSpares⟩ := settle_leaves_alone event answer
    exact ⟨hRespects, hSpares, fun _ _ => trivial⟩

theorem looks_resolve (event : EventId) (room : RoomId) : Looks flow (resolve event room) := by
  obtain ⟨_, _, hCareful⟩ := careful_resolve event room
  rw [resolve]
  refine looks_read_bind (fun m => ?_) hCareful
  cases m.archive.outcome? event with
  | some outcome => trivial
  | none =>
    intro answer
    obtain ⟨hRespects, hSpares⟩ := settle_leaves_alone event answer
    exact ⟨hRespects, fun _ => trivial, .inr ⟨hSpares, fun _ _ => trivial⟩⟩

theorem looks_incomingRequest (sender : UserId) : Looks flow (incomingRequest sender flow) := by
  rw [incomingRequest]
  refine looks_knownRequest_bind (fun handle => ⟨_, rfl⟩) ?_
  rintro (_ | info)
  · trivial
  · exact looks_enter info true

theorem looks_keyVerification (sender : UserId) (event : EventId) (room : RoomId) :
    Looks event.text (keyVerification sender event room) := by
  rw [keyVerification]
  refine looks_knownRequest_bind (fun handle => ⟨_, rfl⟩) ?_
  rintro (_ | info)
  · exact (looks_resolve event room).bind (fun _ => trivial) fun _ => trivial
  · exact looks_enter info false

theorem Command.looks {command : Command} (h : command.LooksUp flow) : Looks flow command.reply := by
  cases command with
  | incomingRequest sender own =>
    subst h
    exact (looks_incomingRequest sender).bind (fun _ => trivial) fun _ => trivial
  | keyVerification sender event room =>
    subst h
    exact (looks_keyVerification sender event room).bind (fun _ => trivial) fun _ => trivial
  | _ => exact h.elim

theorem Command.settled {command : Command} (h : command.LooksUp flow) : command.reply.Settled := by
  cases command with
  | incomingRequest | keyVerification => trivial
  | _ => exact h.elim

end DeviceTrust.Manager
