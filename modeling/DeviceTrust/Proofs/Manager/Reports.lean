import DeviceTrust.Manager.Operations
import DeviceTrust.Proofs.Manager.Changes
import DeviceTrust.Proofs.Operation
/-! # Reports

What comes of a report on a tracked request or a running flow. It leaves the state alone, which nobody
is told; or it moves the state, which is announced; or it ends the thing, which is announced too and
takes it out of its table.
-/

namespace DeviceTrust.Manager

open Operation

/-- A report on a tracked request, with the move to the other table that it brings about. -/
def reportRequest (m : Manager) (flow : String) (update : RequestUpdate) : Manager :=
  match (m.applyRequest flow update).1 with
  | .over handle _ => ((m.applyRequest flow update).2.untrack flow).finish flow handle
  | .unknown | .live => (m.applyRequest flow update).2

def reportFlow (m : Manager) (flow : String) (step : Flow → Option (Flow × Bool)) : Manager :=
  match (m.applyFlow flow step).1 with
  | .over handle value => (m.applyFlow flow step).2.release handle value
  | .unknown | .live => (m.applyFlow flow step).2

variable {m : Manager} {flow : String} {handle : Handle Request} {request : Request}
  {update : RequestUpdate} {flowHandle : Handle Flow} {value next : Flow} {changed : Bool}
  {step : Flow → Option (Flow × Bool)}

/-! ## What reports come to -/

inductive RequestReported (m : Manager) (flow : String) (handle : Handle Request)
    (request : Request) (update : RequestUpdate) : Manager → Prop
  | unmoved (hSame : (request.apply update).2 = false) :
    RequestReported m flow handle request update
      { m with requests := m.requests.set handle (request.apply update).1 false }
  | moved (hChanged : (request.apply update).2 = true)
    (hLive : (request.apply update).1.state.isTerminal = false) :
    RequestReported m flow handle request update { m with
      requests := m.requests.set handle (request.apply update).1 true
      feed := m.feed.announce (.requestChanged handle) }
  | ended (hChanged : (request.apply update).2 = true)
    (hOver : (request.apply update).1.state.isTerminal = true) :
    RequestReported m flow handle request update { m with
      requests := m.requests.set handle (request.apply update).1 true
      tracked := m.tracked.erase flow
      finished := m.finished.insert flow handle
      feed := (m.feed.announce (.requestChanged handle)).announce (.requestRemoved handle) }

inductive FlowReported (m : Manager) (handle : Handle Flow) (next : Flow) : Bool → Manager → Prop
  | unmoved : FlowReported m handle next false { m with flows := m.flows.set handle next false }
  | moved (hLive : next.isTerminal = false) :
    FlowReported m handle next true { m with
      flows := m.flows.set handle next true
      feed := m.feed.announce (.flowChanged handle) }
  | ended (hOver : next.isTerminal = true) :
    FlowReported m handle next true { m with
      flows := m.flows.set handle next true
      running := m.running.erase next.id.text
      feed := (m.feed.announce (.flowChanged handle)).announce (.flowRemoved handle) }

theorem reportRequest_reported (hTracked : m.tracked? flow = some (handle, request)) :
    RequestReported m flow handle request update (m.reportRequest flow update) := by
  cases hChanged : (request.apply update).2 with
  | false =>
    simp only [reportRequest, applyRequest, hTracked, hChanged, Bool.false_eq_true, if_false]
    exact .unmoved hChanged
  | true =>
    cases hOver : (request.apply update).1.state.isTerminal with
    | false =>
      simp only [reportRequest, applyRequest, hTracked, hChanged, hOver, if_true, Bool.false_eq_true,
        if_false]
      exact .moved hChanged hOver
    | true =>
      simp only [reportRequest, applyRequest, hTracked, hChanged, hOver, if_true]
      exact .ended hChanged hOver

theorem reportFlow_reported (hRunning : m.running? flow = some (flowHandle, value))
    (hStep : step value = some (next, changed)) :
    FlowReported m flowHandle next changed (m.reportFlow flow step) := by
  cases changed with
  | false =>
    simp only [reportFlow, applyFlow, hRunning, hStep, Bool.false_eq_true, if_false]
    exact .unmoved
  | true =>
    cases hOver : next.isTerminal with
    | false =>
      simp only [reportFlow, applyFlow, hRunning, hStep, hOver, if_true, Bool.false_eq_true,
        if_false]
      exact .moved hOver
    | true =>
      simp only [reportFlow, applyFlow, hRunning, hStep, hOver, if_true]
      exact .ended hOver

section Changes

variable {admits : Manager → RequestInfo → Prop} {after : Manager}

theorem RequestReported.changes (h : RequestReported m flow handle request update after)
    (hTracked : m.tracked? flow = some (handle, request)) : Changes admits m after := by
  cases h with
  | unmoved hSame =>
    have hReported : request.apply update = ((request.apply update).1, false) := Prod.ext rfl hSame
    exact (Change.report hTracked hReported fun h => absurd h Bool.false_ne_true).changes
  | moved hChanged hLive =>
    have hReported : request.apply update = ((request.apply update).1, true) := Prod.ext rfl hChanged
    exact (Change.report hTracked hReported fun _ => hLive).changes
  | ended hChanged hOver =>
    have hReported : request.apply update = ((request.apply update).1, true) := Prod.ext rfl hChanged
    exact (Change.finish hTracked hReported hOver).changes

theorem FlowReported.changes (h : FlowReported m flowHandle next changed after)
    (hRunning : m.running? flow = some (flowHandle, value))
    (hReported : value.Reported next changed) : Changes admits m after := by
  cases h with
  | unmoved =>
    exact (Change.advance hRunning hReported fun h => absurd h Bool.false_ne_true).changes
  | moved hLive => exact (Change.advance hRunning hReported fun _ => hLive).changes
  | ended hOver => exact (Change.release hRunning hReported hOver).changes

end Changes

/-! ## The operations -/

variable {assumes : Manager → (call : Call) → call.Answer → Prop}
  {post : Except VerificationError Unit → Manager → Prop}

theorem applyRequest_ne_unknown (hTracked : m.tracked? flow = some (handle, request)) :
    (m.applyRequest flow update).1 ≠ .unknown := by
  intro hUnknown
  simp only [applyRequest, hTracked] at hUnknown
  split at hUnknown
  · split at hUnknown <;> cases hUnknown
  · cases hUnknown

theorem applyFlow_ne_unknown (hRunning : m.running? flow = some (flowHandle, value))
    (hStep : step value = some (next, changed)) : (m.applyFlow flow step).1 ≠ .unknown := by
  intro hUnknown
  simp only [applyFlow, hRunning, hStep] at hUnknown
  split at hUnknown
  · split at hUnknown <;> cases hUnknown
  · cases hUnknown

theorem requestUpdated_ensures
    (hNone : m.tracked? flow = none → post (.error (.unknownFlow flow)) m)
    (hSome : ∀ handle request, m.tracked? flow = some (handle, request) →
      post (.ok ()) (m.reportRequest flow update)) :
    (requestUpdated flow update).Ensures assumes post m := by
  rw [requestUpdated, ensures_atomically_bind]
  cases hTracked : m.tracked? flow with
  | none =>
    simp only [applyRequest, hTracked]
    exact hNone hTracked
  | some found =>
    have hPost := hSome found.1 found.2 hTracked
    have hKnown : (m.applyRequest flow update).1 ≠ .unknown := applyRequest_ne_unknown hTracked
    rw [reportRequest] at hPost
    revert hPost hKnown
    cases (m.applyRequest flow update).1 with
    | unknown => exact fun _ h => absurd rfl h
    | _ => exact fun h _ => h

theorem flowUpdated_ensures
    (hNone : (∀ handle value, m.running? flow = some (handle, value) → step value = none) →
      post (.error (.unknownFlow flow)) m)
    (hSome : ∀ handle value moved, m.running? flow = some (handle, value) →
      step value = some moved → post (.ok ()) (m.reportFlow flow step)) :
    (flowUpdated flow step).Ensures assumes post m := by
  rw [flowUpdated, ensures_atomically_bind]
  cases hRunning : m.running? flow with
  | none =>
    simp only [applyFlow, hRunning]
    refine hNone fun handle value h => ?_
    cases hRunning.symm.trans h
  | some found =>
    cases hStep : step found.2 with
    | none =>
      simp only [applyFlow, hRunning, hStep]
      refine hNone fun handle value h => ?_
      cases hRunning.symm.trans h
      exact hStep
    | some moved =>
      have hPost := hSome found.1 found.2 moved hRunning hStep
      have hKnown := applyFlow_ne_unknown hRunning hStep
      rw [reportFlow] at hPost
      revert hPost hKnown
      cases (m.applyFlow flow step).1 with
      | unknown => exact fun _ h => absurd rfl h
      | _ => exact fun h _ => h

end DeviceTrust.Manager
