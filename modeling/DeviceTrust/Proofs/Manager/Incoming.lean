import DeviceTrust.Proofs.Manager.Tables
import DeviceTrust.Proofs.Samples
/-! # Flows that the other side starts

What the manager does with a start event, by what the engine knows of the flow. A QR code flow that runs
already is left alone. Short auth strings begin anew each time, and they are accepted if a request is
tracked under their flow id, whoever the request is shared with.
-/

namespace DeviceTrust

/-- A call that has an incoming flow accepted: the acceptance itself, or the sending of its message. -/
def Call.Accepts : Call → Prop
  | acceptSas .. | send _ => True
  | _ => False

inductive Flow.SameKind : Flow → FlowRecord → Prop
  | sas (sas : Sas) (info : FlowInfo) : SameKind (.sas sas) (.sas info)
  | qr (qr : QrCode) (info : FlowInfo) : SameKind (.qr qr) (.qr info)

namespace Manager

open Operation

variable {σ : Type} {m : Manager} {answer : Collaborators σ} {world : σ} {sender : UserId}
  {flow : String} {info : FlowInfo} {handle : Handle Flow} {value : Flow}

/-! ## What comes of a start event -/

theorem run_incomingFlow_of_none (hFound : (answer (.findFlow sender flow) world).1 = none) :
    (incomingFlow sender flow).run answer m world =
      ⟨none, m, (answer (.findFlow sender flow) world).2, [.findFlow sender flow]⟩ := by
  rw [incomingFlow, run_call_bind, hFound]
  rfl

theorem run_incomingFlow_of_running
    (hFound : (answer (.findFlow sender flow) world).1 = some (.qr info))
    (hRunning : m.runningQr? flow = some handle) :
    (incomingFlow sender flow).run answer m world =
      ⟨some handle, m, (answer (.findFlow sender flow) world).2, [.findFlow sender flow]⟩ := by
  rw [incomingFlow, run_call_bind, hFound]
  dsimp only
  rw [run_read_bind, hRunning]
  rfl

theorem run_incomingFlow_of_new
    (hFound : (answer (.findFlow sender flow) world).1 = some (.qr info))
    (hRunning : m.runningQr? flow = none) :
    (incomingFlow sender flow).run answer m world =
      ⟨some (m.addFlow (.qr (.new info)) false).1, (m.addFlow (.qr (.new info)) false).2,
        (answer (.findFlow sender flow) world).2, [.findFlow sender flow]⟩ := by
  rw [incomingFlow, run_call_bind, hFound]
  dsimp only
  rw [run_read_bind, hRunning]
  rfl

def acceptsFlow (m : Manager) (flow : String) : Bool :=
  m.settings.acceptsKnownSas && m.tracked.contains flow

theorem run_incomingFlow_of_sas
    (hFound : (answer (.findFlow sender flow) world).1 = some (.sas info)) :
    let entered := m.addFlow (.sas (.new info)) true
    let accepted := (Sas.new info).accept.run answer entered.2 (answer (.findFlow sender flow) world).2
    (incomingFlow sender flow).run answer m world =
      if m.acceptsFlow flow then
        ⟨some entered.1, entered.2, accepted.world, .findFlow sender flow :: accepted.calls⟩
      else
        ⟨some entered.1, entered.2, (answer (.findFlow sender flow) world).2,
          [.findFlow sender flow]⟩ := by
  intro entered accepted
  have hAccepted : ((Sas.new info).accept >>= fun _ => done (some entered.1)).run answer entered.2
      (answer (.findFlow sender flow) world).2 =
        ⟨some entered.1, entered.2, accepted.world, accepted.calls⟩ :=
    (Sas.accept_callsOnly (.new info)).run_bind_done _
  -- Entering a flow changes neither the settings nor the tracked requests.
  have hAccepts : (entered.2.settings.acceptsKnownSas && entered.2.tracked.contains flow) =
      m.acceptsFlow flow := rfl
  rw [incomingFlow, run_call_bind, hFound]
  dsimp only
  rw [run_atomically_bind, run_read_bind, hAccepts]
  cases m.acceptsFlow flow with
  | false => rfl
  | true =>
    exact congrArg (fun last => Finished.mk last.value last.state last.world
      (.findFlow sender flow :: last.calls)) hAccepted

theorem incomingFlow_of_sas_enters
    (hFound : (answer (.findFlow sender flow) world).1 = some (.sas info)) :
    ((incomingFlow sender flow).run answer m world).value =
        some (m.addFlow (.sas (.new info)) true).1 ∧
      ((incomingFlow sender flow).run answer m world).state =
        (m.addFlow (.sas (.new info)) true).2 := by
  rw [run_incomingFlow_of_sas hFound]
  split <;> exact ⟨rfl, rfl⟩

theorem calls_incomingFlow_of_not_sas
    (hFound : ∀ info, (answer (.findFlow sender flow) world).1 ≠ some (.sas info)) :
    ((incomingFlow sender flow).run answer m world).calls = [.findFlow sender flow] := by
  cases hRecord : (answer (.findFlow sender flow) world).1 with
  | none => rw [run_incomingFlow_of_none hRecord]
  | some record =>
    cases record with
    | sas info => exact absurd hRecord (hFound info)
    | qr info =>
      cases hRunning : m.runningQr? flow with
      | none => rw [run_incomingFlow_of_new hRecord hRunning]
      | some handle => rw [run_incomingFlow_of_running hRecord hRunning]

theorem calls_incomingFlow_of_not_accepts (hAccepts : m.acceptsFlow flow = false) :
    ((incomingFlow sender flow).run answer m world).calls = [.findFlow sender flow] := by
  by_cases hFound : ∃ info, (answer (.findFlow sender flow) world).1 = some (.sas info)
  · obtain ⟨info, hFound⟩ := hFound
    rw [run_incomingFlow_of_sas hFound, hAccepts]
    rfl
  · exact calls_incomingFlow_of_not_sas (not_exists.mp hFound)

theorem not_accepts_findFlow : ¬ ∃ call ∈ [Call.findFlow sender flow], call.Accepts := by
  rintro ⟨call, hCall, hAccepts⟩
  obtain rfl := List.mem_singleton.mp hCall
  exact hAccepts

theorem exists_accepts_iff :
    (∃ call ∈ ((incomingFlow sender flow).run answer m world).calls, call.Accepts) ↔
      m.acceptsFlow flow = true ∧
        ∃ info, (answer (.findFlow sender flow) world).1 = some (.sas info) := by
  by_cases hFound : ∃ info, (answer (.findFlow sender flow) world).1 = some (.sas info)
  · cases hAccepts : m.acceptsFlow flow with
    | false =>
      rw [calls_incomingFlow_of_not_accepts hAccepts]
      exact iff_of_false not_accepts_findFlow fun h => Bool.false_ne_true h.1
    | true =>
      refine iff_of_true ?_ ⟨rfl, hFound⟩
      obtain ⟨info, hFound⟩ := hFound
      rw [run_incomingFlow_of_sas hFound, hAccepts]
      exact ⟨.acceptSas info.otherUser info.flow.text, .tail _ (.head _), trivial⟩
  · rw [calls_incomingFlow_of_not_sas (not_exists.mp hFound)]
    exact iff_of_false not_accepts_findFlow fun h => hFound h.2

/-! ## A start event that comes again -/

/-- The running flow is yielded as it is, nothing is announced, and nothing is accepted. -/
structure Kept (m : Manager) (flow : String) (handle : Handle Flow)
    (last : Finished Manager σ (Option (Handle Flow))) : Prop where
  yielded : last.value = some handle
  running : last.state.running? flow = m.running? flow
  unannounced : last.state.feed = m.feed
  unaccepted : ¬ ∃ call ∈ last.calls, call.Accepts

/-- A start event for a flow that runs already has no effect. -/
def KeepsRunning (answer : Collaborators σ) (world : σ) (m : Manager) (sender : UserId)
    (flow : String) : Prop :=
  ∀ handle value record, m.running? flow = some (handle, value) →
    (answer (.findFlow sender flow) world).1 = some record → value.SameKind record →
      Kept m flow handle ((incomingFlow sender flow).run answer m world)

/-- Short auth strings run already when the other side is said to have started some. -/
def Restarts (answer : Collaborators σ) (world : σ) (m : Manager) (sender : UserId)
    (flow : String) : Prop :=
  ∃ handle sas info, m.running? flow = some (handle, .sas sas) ∧
    (answer (.findFlow sender flow) world).1 = some (.sas info)

theorem kept_of_qr {qr : QrCode} (hRunning : m.running? flow = some (handle, .qr qr))
    (hFound : (answer (.findFlow sender flow) world).1 = some (.qr info)) :
    Kept m flow handle ((incomingFlow sender flow).run answer m world) := by
  have hHandle : m.runningQr? flow = some handle := by rw [runningQr?, hRunning]
  rw [run_incomingFlow_of_running hFound hHandle]
  exact ⟨rfl, rfl, rfl, not_accepts_findFlow⟩

theorem not_kept_of_sas (hRunning : m.running? flow = some (handle, value))
    (hFound : (answer (.findFlow sender flow) world).1 = some (.sas info)) :
    ¬ Kept m flow handle ((incomingFlow sender flow).run answer m world) := by
  intro hKept
  have hSame : some (m.flows.add (.sas (.new info))).1 = some handle :=
    (incomingFlow_of_sas_enters hFound).1.symm.trans hKept.yielded
  have hFlow : m.flows.get? handle = some value := (running?_eq_some_iff.mp hRunning).2
  exact Registry.add_fst_ne hFlow (Option.some.inj hSame)

/-- A start event that comes again has no effect, except on short auth strings. -/
theorem keepsRunning_iff_not_restarts (answer : Collaborators σ) (world : σ) (m : Manager)
    (sender : UserId) (flow : String) :
    KeepsRunning answer world m sender flow ↔ ¬ Restarts answer world m sender flow := by
  constructor
  · rintro h ⟨handle, sas, info, hRunning, hFound⟩
    exact not_kept_of_sas hRunning hFound (h handle _ _ hRunning hFound (.sas sas info))
  · intro h handle value record hRunning hFound hKind
    cases hKind with
    | sas sas info => exact absurd ⟨handle, sas, info, hRunning, hFound⟩ h
    | qr qr info => exact kept_of_qr hRunning hFound

namespace Sample

def requested : List Command := [.incomingRequest .bob "flow"]

def advanced : List Command :=
  requested ++ [.incomingFlow .bob "flow", .sasUpdated "flow" .accepted]

end Sample

open Sample in
theorem advanced_sas_restarts :
    let before := (perform advanced).run obliging (new .alice .default) ()
    ¬ KeepsRunning obliging before.world before.state .bob "flow" := by
  intro before h
  have hRunning : before.state.running? "flow" =
      some (⟨0⟩, .sas { Sas.new (.startedBy .bob "flow") with state := .waitForPartnerKey }) := by
    decide +kernel
  have hFound : (obliging (.findFlow .bob "flow") before.world).1 =
      some (.sas (.startedBy .bob "flow")) := rfl
  exact not_kept_of_sas hRunning hFound (h _ _ _ hRunning hFound (.sas _ _))

/-! ## Whose flows are accepted -/

/-- A flow is accepted only if the settings say so, it is one of short auth strings, and its flow id is
that of a request which is not over and is shared with the sender. -/
def HelpsOnlyPeer (answer : Collaborators σ) (world : σ) (m : Manager) (sender : UserId)
    (flow : String) : Prop :=
  (∃ call ∈ ((incomingFlow sender flow).run answer m world).calls, call.Accepts) →
    m.settings.acceptsKnownSas = true ∧
      (∃ info, (answer (.findFlow sender flow) world).1 = some (.sas info)) ∧
      ∃ handle request, m.tracked? flow = some (handle, request) ∧
        request.state.isTerminal = false ∧ request.otherUser = sender

/-- A flow is to be accepted whose flow id is that of a request shared with another user. -/
def MistakesPeer (answer : Collaborators σ) (world : σ) (m : Manager) (sender : UserId)
    (flow : String) : Prop :=
  m.settings.acceptsKnownSas = true ∧
    (∃ info, (answer (.findFlow sender flow) world).1 = some (.sas info)) ∧
    ∃ handle request, m.tracked? flow = some (handle, request) ∧ request.otherUser ≠ sender

theorem RequestsFiled.exists_tracked?_iff (h : m.RequestsFiled) :
    m.tracked.contains flow = true ↔ ∃ handle request,
      m.tracked? flow = some (handle, request) ∧ request.state.isTerminal = false := by
  rw [Std.TreeMap.contains_eq_isSome_getElem?, Option.isSome_iff_exists]
  constructor
  · rintro ⟨handle, hKey⟩
    obtain ⟨request, hRequest, _, hLive⟩ := h.tracked flow handle hKey
    exact ⟨handle, request, tracked?_eq_some_iff.mpr ⟨hKey, hRequest⟩, hLive⟩
  · rintro ⟨handle, request, hTracked, _⟩
    exact ⟨handle, (tracked?_eq_some_iff.mp hTracked).1⟩

theorem RequestsFiled.helpsOnlyPeer_iff (h : m.RequestsFiled) :
    HelpsOnlyPeer answer world m sender flow ↔ ¬ MistakesPeer answer world m sender flow := by
  rw [HelpsOnlyPeer, exists_accepts_iff, acceptsFlow, Bool.and_eq_true, h.exists_tracked?_iff]
  constructor
  · rintro hHelps ⟨hSettings, hFound, handle, request, hTracked, hOther⟩
    have hLive := (h.of_tracked? hTracked).2.2.2
    obtain ⟨_, _, _, found, hSame, _, hPeer⟩ :=
      hHelps ⟨⟨hSettings, handle, request, hTracked, hLive⟩, hFound⟩
    cases hTracked.symm.trans hSame
    exact hOther hPeer
  · rintro hPeer ⟨⟨hSettings, handle, request, hTracked, hLive⟩, hFound⟩
    refine ⟨hSettings, hFound, handle, request, hTracked, hLive, ?_⟩
    exact Classical.byContradiction fun hOther =>
      hPeer ⟨hSettings, hFound, handle, request, hTracked, hOther⟩

theorem Filed.perform (h : m.Filed) (answer : Collaborators σ) (world : σ)
    (commands : List Command) : ((perform commands).run answer m world).state.Filed :=
  h.changes ((Does.perform admitted_all commands).changes answer world)

/-- In every run, only a request shared with another user leads to a wrong acceptance. -/
theorem helpsOnlyPeer_iff_not_mistakesPeer (ownUser : UserId) (settings : Settings)
    (answer : Collaborators σ) (world : σ) (commands : List Command) (sender : UserId)
    (flow : String) :
    let before := (perform commands).run answer (new ownUser settings) world
    HelpsOnlyPeer answer before.world before.state sender flow ↔
      ¬ MistakesPeer answer before.world before.state sender flow := by
  intro before
  have hFiled : before.state.Filed := (filed_new ownUser settings).perform answer world commands
  exact hFiled.helpsOnlyPeer_iff

/-- What the engine knows of a user under a flow id is of that user and has that flow id. -/
def Attributed (_ : Manager) : (call : Call) → call.Answer → Prop
  | .findRequest user flow, some info => info.otherUser = user ∧ info.flow.text = flow
  | .findFlow user flow, some (.sas info) => info.otherUser = user ∧ info.flow.text = flow
  | .findFlow user flow, some (.qr info) => info.otherUser = user ∧ info.flow.text = flow
  | _, _ => True

open Sample in
theorem stranger_is_accepted :
    let before := (perform requested).run obliging (new .alice .default) ()
    (perform (requested ++ [.incomingFlow .carol "flow"])).Meets Attributed obliging
        (new .alice .default) () ∧
      ¬ HelpsOnlyPeer obliging before.world before.state .carol "flow" := by
  intro before
  refine ⟨meets_of_forall fun _ call _ => ?_, ?_⟩
  · cases call <;> trivial
  · intro h
    have hAccepts : before.state.acceptsFlow "flow" = true := by decide +kernel
    obtain ⟨_, _, handle, request, hTracked, _, hPeer⟩ :=
      h (exists_accepts_iff.mpr ⟨hAccepts, _, rfl⟩)
    have hPeerBob : (before.state.tracked? "flow").map (·.2.otherUser) = some .bob := by
      decide +kernel
    rw [hTracked] at hPeerBob
    have hSame : UserId.carol = .bob := hPeer.symm.trans (Option.some.inj hPeerBob)
    exact absurd hSame (by decide)

end Manager

end DeviceTrust
