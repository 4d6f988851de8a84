import DeviceTrust.Proofs.Samples
import DeviceTrust.Proofs.Verification.SasHistory
import Mathlib.Data.List.Infix
/-! # Progress of short auth strings

A flow of short auth strings has its stages in one order, and its first stage is another one for the
side that started it. But a report is taken wherever a flow is, unless it tells of a start that was our
own. So a flow keeps its course just when the reports that it heeds do: each leads no further back than
those before, and none tells that we sent a start message that the other side sent.
-/

namespace DeviceTrust

namespace SasState

/-- How far a flow is. Both sides begin in one stage, and all ends are in the last. -/
def stage : SasState → Nat
  | unknown => 0
  | incomingShowAccept | waitForPartnerToAccept => 1
  | waitForPartnerKey => 2
  | showSas => 3
  | waitForPartnerToConfirm => 4
  | verified | cancelled | cancelledByUs => 5

end SasState

namespace SasUpdate

variable {update : SasUpdate}

theorem target_cancelled_ne (info : CancelInfo) {state : SasState} (hLive : state.isTerminal = false) :
    (cancelled info).target ≠ state := by
  rintro rfl
  cases (Sas.isTerminal_ofCancel info).symm.trans hLive

theorem target_eq_incomingShowAccept_iff : update.target = .incomingShowAccept ↔ update = .started := by
  cases update with
  | started => exact iff_of_true rfl rfl
  | cancelled info => exact iff_of_false (target_cancelled_ne info rfl) nofun
  | _ => exact iff_of_false nofun nofun

theorem target_eq_waitForPartnerToAccept_iff :
    update.target = .waitForPartnerToAccept ↔ update = .created := by
  cases update with
  | created => exact iff_of_true rfl rfl
  | cancelled info => exact iff_of_false (target_cancelled_ne info rfl) nofun
  | _ => exact iff_of_false nofun nofun

end SasUpdate

namespace Sas

def visited (info : FlowInfo) (updates : List SasUpdate) : List SasState :=
  updates.inits.map fun before => (life.follow (.new info) before).state

variable {info : FlowInfo} {before updates : List SasUpdate} {update : SasUpdate} {state : SasState}

theorem visited_concat : visited info (before ++ [update]) =
    visited info before ++ [((life.follow (.new info) before).apply update).1.state] := by
  have hInits : (before ++ [update]).inits = before.inits ++ [before ++ [update]] := by
    simp [List.inits_append]
  rw [visited, hInits, List.map_append, List.map_singleton, Lifecycle.follow_append]
  rfl

theorem visited_concat_of_takes (h : (life.follow (.new info) before).takes update = true) :
    visited info (before ++ [update]) = visited info before ++ [update.target] := by
  rw [visited_concat, apply_of_takes h]

theorem visited_concat_of_not_takes (h : (life.follow (.new info) before).takes update = false) :
    visited info (before ++ [update]) =
      visited info before ++ [(life.follow (.new info) before).state] := by
  rw [visited_concat, apply_of_not_takes h]

theorem visited_eq_concat (info : FlowInfo) (updates : List SasUpdate) : ∃ earlier,
    visited info updates = earlier ++ [(life.follow (.new info) updates).state] := by
  induction updates using List.reverseRecOn with
  | nil => exact ⟨[], rfl⟩
  | append_singleton before update _ =>
    rw [visited_concat, Lifecycle.follow_append]
    exact ⟨visited info before, rfl⟩

theorem mem_visited_iff : state ∈ visited info updates ↔
    state = .unknown ∨ ∃ update ∈ info.heeded updates, update.target = state := by
  induction updates using List.reverseRecOn with
  | nil => simp [visited, FlowInfo.heeded, SasUpdate.upToEnd, Lifecycle.follow, new]
  | append_singleton before update ih =>
    rw [heeded_concat]
    cases hTakes : (life.follow (.new info) before).takes update with
    | true =>
      rw [visited_concat_of_takes hTakes, List.mem_append, ih, if_pos rfl]
      simp [or_and_right, exists_or, or_assoc, eq_comm (a := state)]
    | false =>
      -- What is not taken leaves the flow in a state that it visited.
      obtain ⟨earlier, hLast⟩ := visited_eq_concat info before
      rw [visited_concat_of_not_takes hTakes, if_neg Bool.false_ne_true, List.append_nil, ← ih, hLast]
      simp

theorem pairwise_visited_iff :
    (visited info updates).Pairwise (fun earlier later => earlier.stage ≤ later.stage) ↔
      (info.heeded updates).Pairwise fun earlier later =>
        earlier.target.stage ≤ later.target.stage := by
  induction updates using List.reverseRecOn with
  | nil => exact iff_of_true (List.pairwise_singleton ..) List.Pairwise.nil
  | append_singleton before update ih =>
    rw [heeded_concat]
    cases hTakes : (life.follow (.new info) before).takes update with
    | true =>
      have hBack : (∀ state ∈ visited info before, state.stage ≤ update.target.stage) ↔
          ∀ earlier ∈ info.heeded before, earlier.target.stage ≤ update.target.stage := by
        simp [mem_visited_iff, or_imp, forall_and, SasState.stage]
      rw [visited_concat_of_takes hTakes, if_pos rfl, List.pairwise_append, List.pairwise_append, ih]
      simpa using fun _ => hBack
    | false =>
      obtain ⟨earlier, hLast⟩ := visited_eq_concat info before
      rw [visited_concat_of_not_takes hTakes, if_neg Bool.false_ne_true, List.append_nil, ← ih, hLast]
      simp +contextual [List.pairwise_append]

/-! ## Keeping course -/

/-- A flow only goes forward, and on the branch of the side that started it. -/
structure KeepsCourse (info : FlowInfo) (updates : List SasUpdate) : Prop where
  forward : (visited info updates).Pairwise fun earlier later => earlier.stage ≤ later.stage
  incoming : .incomingShowAccept ∈ visited info updates → info.weStarted = false
  outgoing : .waitForPartnerToAccept ∈ visited info updates → info.weStarted = true

/-- Among what is heeded, a report leads back behind an earlier one, or tells that we sent the start
message of a flow that the other side started. -/
def Strays (info : FlowInfo) (heeded : List SasUpdate) : Prop :=
  (∃ earlier later, [earlier, later].Sublist heeded ∧ later.target.stage < earlier.target.stage) ∨
    (info.weStarted = false ∧ .created ∈ heeded)

theorem incoming_visited_iff :
    .incomingShowAccept ∈ visited info updates ↔ .started ∈ info.heeded updates := by
  simp [mem_visited_iff, SasUpdate.target_eq_incomingShowAccept_iff]

theorem outgoing_visited_iff :
    .waitForPartnerToAccept ∈ visited info updates ↔ .created ∈ info.heeded updates := by
  simp [mem_visited_iff, SasUpdate.target_eq_waitForPartnerToAccept_iff]

theorem weStarted_of_started_heeded (h : .started ∈ info.heeded updates) : info.weStarted = false := by
  simpa [FlowInfo.ignores] using FlowInfo.ignores_of_mem_heeded h

/-- A flow keeps its course just when nothing that it heeds strays from it. -/
theorem keepsCourse_iff_not_strays (info : FlowInfo) (updates : List SasUpdate) :
    KeepsCourse info updates ↔ ¬ Strays info (info.heeded updates) := by
  have hForward : (visited info updates).Pairwise (fun earlier later =>
      earlier.stage ≤ later.stage) ↔ ¬ ∃ earlier later,
        [earlier, later].Sublist (info.heeded updates) ∧ later.target.stage < earlier.target.stage := by
    rw [pairwise_visited_iff, List.pairwise_iff_forall_sublist]
    simp only [not_exists, not_and, not_lt]
  rw [Strays, not_or, ← hForward, not_and]
  constructor
  · rintro ⟨hOrder, _, hOutgoing⟩
    refine ⟨hOrder, fun hTheirs hCreated => ?_⟩
    cases hTheirs.symm.trans (hOutgoing (outgoing_visited_iff.mpr hCreated))
  · rintro ⟨hOrder, hOutgoing⟩
    refine ⟨hOrder, ?_, ?_⟩
    · intro hIncoming
      exact weStarted_of_started_heeded (incoming_visited_iff.mp hIncoming)
    · intro hVisited
      by_contra hTheirs
      exact hOutgoing (Bool.eq_false_iff.mpr hTheirs) (outgoing_visited_iff.mp hVisited)

theorem shown_flow_is_thrown_back :
    visited (.startedBy .bob "flow") [.started, .accepted, .keysExchanged [0] [1000], .created] =
        [.unknown, .incomingShowAccept, .waitForPartnerKey, .showSas, .waitForPartnerToAccept] ∧
      ¬ KeepsCourse (.startedBy .bob "flow")
        [.started, .accepted, .keysExchanged [0] [1000], .created] := by
  refine ⟨rfl, fun hKeeps => ?_⟩
  cases hKeeps.outgoing (by decide)

end Sas

end DeviceTrust
