import DeviceTrust.Proofs.Manager.Tables
/-! # What is finished is remembered

If what the engine answers is plausible, no flow is both tracked and finished, and a finished request
stays where it is and as it is. A change that keeps both is a step of the tables of requests, and under
plausible answers every operation is one.
-/

namespace DeviceTrust.Manager

open Operation

/-- What the engine may answer: what it knows under a flow id has that flow id, and a request of ours
gets a flow id of its own. -/
def Plausible (m : Manager) : (call : Call) → call.Answer → Prop
  | .findRequest _ flow, some info => info.flow.text = flow
  | .findFlow _ flow, some (.sas info) => info.flow.text = flow
  | .findFlow _ flow, some (.qr info) => info.flow.text = flow
  | .request .., .ok (some new) => m.known? new.info.flow.text = none
  | _, _ => True

def Names (m : Manager) (ended : Bool) (flow : String) (handle : Handle Request) : Prop :=
  ∃ request, m.request? handle = some request ∧ request.flow.text = flow ∧
    request.state.isTerminal = ended

/-- The tables name requests under their own flow ids, and nothing is both tracked and finished. -/
structure Settled (m : Manager) : Prop where
  tracked : ∀ (flow : String) handle, m.tracked[flow]? = some handle → m.Names false flow handle
  finished : ∀ (flow : String) handle, m.finished[flow]? = some handle → m.Names true flow handle
  apart : ∀ (flow : String) handle, m.finished[flow]? = some handle → m.tracked[flow]? = none

def Remembers (m next : Manager) : Prop :=
  ∀ (flow : String) handle request, m.finished[flow]? = some handle →
    m.request? handle = some request →
    next.finished[flow]? = some handle ∧ next.request? handle = some request

structure Step (m next : Manager) : Prop where
  settled : next.Settled
  remembers : m.Remembers next

variable {m next last : Manager} {flow : String}

theorem Step.refl (h : m.Settled) : Step m m :=
  ⟨h, fun _ _ _ hFinished hRequest => ⟨hFinished, hRequest⟩⟩

theorem Step.trans (h : Step m next) (hNext : Step next last) : Step m last := by
  refine ⟨hNext.settled, ?_⟩
  intro flow handle request hFinished hRequest
  obtain ⟨hFinished, hRequest⟩ := h.remembers flow handle request hFinished hRequest
  exact hNext.remembers flow handle request hFinished hRequest

theorem known?_eq_none_iff : m.known? flow = none ↔
    m.tracked[flow]? = none ∧ m.finished[flow]? = none := by
  rw [known?]
  cases m.tracked[flow]? <;> simp

def Unknown (m : Manager) (info : RequestInfo) : Prop := m.known? info.flow.text = none

theorem plausible_admitted : Admitted Plausible Unknown where
  found m user flow info hUnknown hFlow := by
    have hText : info.flow.text = flow := hFlow
    rw [Unknown, hText, hUnknown]
  made _ _ _ _ hMade := hMade

namespace Settled

theorem requestsFiled (h : m.Settled) : m.RequestsFiled := ⟨h.tracked, h.finished⟩

theorem finished_eq_none (h : m.Settled) {handle : Handle Request}
    (hTracked : m.tracked[flow]? = some handle) : m.finished[flow]? = none := by
  cases hFinished : m.finished[flow]? with
  | none => rfl
  | some found => cases hTracked.symm.trans (h.apart flow found hFinished)

theorem apart_change (h : m.Settled) (hChange : Change Unknown m next) (flow : String)
    (handle : Handle Request) (hFinished : next.finished[flow]? = some handle) :
    next.tracked[flow]? = none := by
  cases hChange with
  | remember info hUnknown =>
    obtain ⟨rfl, _⟩ | hFinished := Table.of_getElem?_insert_eq_some hFinished
    · exact (known?_eq_none_iff.mp hUnknown).1
    · exact h.apart flow handle hFinished
  | track info isNew hUnknown =>
    have hFlow : info.flow.text ≠ flow := by
      rintro rfl
      cases (known?_eq_none_iff.mp hUnknown).2.symm.trans hFinished
    exact (Table.getElem?_insert_of_ne hFlow).trans (h.apart flow handle hFinished)
  | finish =>
    obtain ⟨rfl, _⟩ | hFinished := Table.of_getElem?_insert_eq_some hFinished
    · exact Std.TreeMap.getElem?_erase_self
    · exact Table.getElem?_erase_eq_none (h.apart flow handle hFinished)
  | report | enter | run | advance | release | dropQr | noteDevice | settle =>
    exact h.apart flow handle hFinished

theorem remembers_change (h : m.Settled) (hChange : Change Unknown m next) : m.Remembers next := by
  intro flow handle request hFinished hRequest
  have hUnmoved {moved : Handle Request} {other : String} (hKey : m.tracked[other]? = some moved) :
      moved ≠ handle := by
    rintro rfl
    exact h.requestsFiled.tracked.apart h.requestsFiled.finished hKey hFinished
  cases hChange with
  | remember info hUnknown =>
    have hFlow : info.flow.text ≠ flow := by
      rintro rfl
      cases (known?_eq_none_iff.mp hUnknown).2.symm.trans hFinished
    exact ⟨(Table.getElem?_insert_of_ne hFlow).trans hFinished,
      Registry.get?_add_of_some hRequest⟩
  | track => exact ⟨hFinished, Registry.get?_add_of_some hRequest⟩
  | report hTracked =>
    have hKey := (tracked?_eq_some_iff.mp hTracked).1
    exact ⟨hFinished, (Registry.get?_set_of_ne (hUnmoved hKey)).trans hRequest⟩
  | @finish moved _ _ _ _ hTracked =>
    have hKey := (tracked?_eq_some_iff.mp hTracked).1
    have hFlow : moved ≠ flow := by
      rintro rfl
      cases (h.finished_eq_none hKey).symm.trans hFinished
    exact ⟨(Table.getElem?_insert_of_ne hFlow).trans hFinished,
      (Registry.get?_set_of_ne (hUnmoved hKey)).trans hRequest⟩
  | enter | run | advance | release | dropQr | noteDevice | settle => exact ⟨hFinished, hRequest⟩

theorem step (h : m.Settled) (hChange : Change Unknown m next) : Step m next := by
  have hFiled := h.requestsFiled.change hChange
  exact ⟨⟨hFiled.tracked, hFiled.finished, h.apart_change hChange⟩, h.remembers_change hChange⟩

theorem steps (h : m.Settled) (hChanges : Changes Unknown m next) : Step m next := by
  induction hChanges with
  | refl => exact .refl h
  | tail _ hChange ih => exact ih.trans (ih.settled.step hChange)

end Settled

def Steps {α : Type} (p : Operation Manager α) : Prop :=
  ∀ m, m.Settled → p.Ensures Plausible (fun _ next => Step m next) m

theorem Steps.perform (commands : List Command) : Steps (perform commands) := by
  intro m hSettled
  refine (Does.perform plausible_admitted commands m).mono ?_
  intro _ next hChanges
  exact hSettled.steps hChanges

end DeviceTrust.Manager
