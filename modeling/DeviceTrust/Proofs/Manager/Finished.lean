import DeviceTrust.Proofs.Manager.Incoming
import DeviceTrust.Proofs.Manager.Remembering
import DeviceTrust.Proofs.Samples
/-! # Finished requests

A request that is over is remembered in its last state. No later operation tracks it again or changes
it, whatever the engine goes on to say about its flow, and no lookup of the flow asks anybody.
-/

namespace DeviceTrust.Manager

open Operation

variable {β σ : Type} {m : Manager} {answer : Collaborators σ} {world : σ} {flow : String}
  {handle : Handle Request}

/-- How operations on a flow end in a state in which the flow belongs to a finished request: reports on
it are refused, lookups yield the request and change nothing, and nothing is accepted for it. -/
structure Retired (m : Manager) (flow : String) (handle : Handle Request) : Prop where
  requestUpdated : ∀ {σ : Type} (answer : Collaborators σ) world update,
    (requestUpdated flow update).run answer m world = ⟨.error (.unknownFlow flow), m, world, []⟩
  incomingRequest : ∀ {σ : Type} (answer : Collaborators σ) world sender,
    (incomingRequest sender flow).run answer m world = ⟨some handle, m, world, []⟩
  keyVerification : ∀ {σ : Type} (answer : Collaborators σ) world sender (event : EventId) room,
    event.text = flow →
    (keyVerification sender event room).run answer m world = ⟨.ok (.request handle), m, world, []⟩
  incomingFlow : ∀ {σ : Type} (answer : Collaborators σ) world sender,
    ((incomingFlow sender flow).run answer m world).calls = [.findFlow sender flow]

theorem run_knownRequest_bind {k : Option (Handle Request) → Operation Manager β} :
    (knownRequest flow >>= k).run answer m world = (k (m.known? flow)).run answer m world := by
  rw [knownRequest, bind_assoc, run_read_bind, known?]
  cases m.tracked[flow]? <;> rfl

theorem tracked?_eq_none (h : m.tracked[flow]? = none) : m.tracked? flow = none := by
  rw [tracked?, h]
  rfl

theorem retired (hTracked : m.tracked[flow]? = none) (hFinished : m.finished[flow]? = some handle) :
    Retired m flow handle := by
  have hKnown : m.known? flow = some handle := by
    rw [known?, hTracked, hFinished]
    rfl
  refine ⟨?_, ?_, ?_, ?_⟩
  · intro σ answer world update
    have hApply : m.applyRequest flow update = (.unknown, m) := by
      rw [applyRequest, tracked?_eq_none hTracked]
    rw [Manager.requestUpdated, run_atomically_bind, hApply]
    rfl
  · intro σ answer world sender
    rw [Manager.incomingRequest, run_knownRequest_bind, hKnown]
    rfl
  · rintro σ answer world sender event room rfl
    rw [Manager.keyVerification, run_knownRequest_bind, hKnown]
    rfl
  · intro σ answer world sender
    refine calls_incomingFlow_of_not_accepts ?_
    rw [acceptsFlow, Std.TreeMap.contains_eq_isSome_getElem?, hTracked]
    exact Bool.and_false _

theorem settled_new (ownUser : UserId) (settings : Settings) : Settled (new ownUser settings) := by
  refine ⟨?_, ?_, ?_⟩ <;> intro flow handle h <;> simp [new] at h

/-- Whatever a client asks for after a request is finished, the request stays finished and as it is. -/
theorem finished_stays (ownUser : UserId) (settings : Settings) (answer : Collaborators σ) (world : σ)
    (before after : List Command)
    (hPlausible :
      (perform (before ++ after)).Meets Plausible answer (new ownUser settings) world)
    (hFinished : ((perform before).run answer (new ownUser settings) world).state.finished[flow]? =
      some handle) :
    ∃ request, ((perform before).run answer (new ownUser settings) world).state.request? handle =
        some request ∧
      let last := ((perform (before ++ after)).run answer (new ownUser settings) world).state
      last.tracked[flow]? = none ∧ last.finished[flow]? = some handle ∧
        last.request? handle = some request ∧ Retired last flow handle := by
  rw [perform_append, meets_bind] at hPlausible
  obtain ⟨hBefore, hAfter⟩ := hPlausible
  have hFirst := (Steps.perform before _ (settled_new ownUser settings)).of_run hBefore
  have hLast := (Steps.perform after _ hFirst.settled).of_run hAfter
  -- What follows only has to remember, since the tables are settled when it starts.
  obtain ⟨request, hRequest, _⟩ := hFirst.settled.finished flow handle hFinished
  obtain ⟨hKept, hSame⟩ := hLast.remembers flow handle request hFinished hRequest
  have hUntracked := hLast.settled.apart flow handle hKept
  refine ⟨request, hRequest, ?_⟩
  rw [perform_append, run_bind]
  exact ⟨hUntracked, hKept, hSame, retired hUntracked hKept⟩

namespace Sample

theorem obliging_plausible (m : Manager) (call : Call) (world : Unit) :
    m.Plausible call (obliging call world).1 := by
  cases call <;> trivial

def start : Manager := new .alice .default

def cancelled : List Command :=
  [.incomingRequest .bob "flow", .requestUpdated "flow" (.cancelled (.ofCode .user false))]

def again : List Command :=
  [.incomingRequest .bob "flow", .incomingFlow .bob "flow", .requestUpdated "flow" .requested]

end Sample

open Sample in
theorem cancelled_stays : (perform (cancelled ++ again)).Meets Plausible obliging start () ∧
    ((perform cancelled).run obliging start ()).state.finished["flow"]? = some ⟨0⟩ ∧
    ∃ request, ((perform cancelled).run obliging start ()).state.request? ⟨0⟩ = some request ∧
      let last := ((perform (cancelled ++ again)).run obliging start ()).state
      last.tracked["flow"]? = none ∧ last.finished["flow"]? = some ⟨0⟩ ∧
        last.request? ⟨0⟩ = some request ∧ Retired last "flow" ⟨0⟩ := by
  have hPlausible : (perform (cancelled ++ again)).Meets Plausible obliging start () :=
    meets_of_forall obliging_plausible
  have hFinished :
      ((perform cancelled).run obliging start ()).state.finished["flow"]? = some ⟨0⟩ := by
    decide +kernel
  exact ⟨hPlausible, hFinished,
    finished_stays .alice .default obliging () cancelled again hPlausible hFinished⟩

end DeviceTrust.Manager
