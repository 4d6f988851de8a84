import DeviceTrust.Proofs.History.Ownership
import DeviceTrust.Proofs.Samples
import Mathlib.Order.Defs.LinearOrder
/-! # One query at a time

At most one call for a flow waits for its events, because at most one owns the attempt that is in
flight. Only that one records an outcome, and only once. Whoever goes home with an outcome read it from
the archive, or recorded it.
-/

namespace DeviceTrust.Resolution.Machine

open Phase

variable {m : Machine} {i j : Nat} {flow : EventId} {made : Move}

theorem Sound.play (h : m.Sound) (moves : List Move) : (m.play moves).Sound := by
  induction moves generalizing m with
  | nil => exact h
  | cons made rest ih => exact ih (h.move made)

def records (m : Machine) (flow : EventId) : Move → Bool
  | .step i =>
    match m.callers[i]? with
    | some ⟨asked, _, .recording _ _⟩ => asked == flow
    | _ => false
  | _ => false

def recordings (m : Machine) (flow : EventId) : List Move → Nat
  | [] => 0
  | made :: rest => (m.records flow made).toNat + (m.move made).recordings flow rest

theorem records_eq_true_iff : m.records flow made = true ↔
    ∃ i room attempt outcome, made = .step i ∧
      m.callers[i]? = some ⟨flow, room, .recording attempt outcome⟩ := by
  constructor
  · intro h
    unfold records at h
    split at h
    · next i =>
      split at h
      · next asked room attempt outcome hCaller =>
        obtain rfl := eq_of_beq h
        exact ⟨i, room, attempt, outcome, rfl, hCaller⟩
      · cases h
    · cases h
  · rintro ⟨i, room, attempt, outcome, rfl, hCaller⟩
    simp [records, hCaller]

theorem outcome?_move_of_not_records (h : m.records flow made = false) :
    (m.move made).archive.outcome? flow = m.archive.outcome? flow := by
  rcases m.move_cases made with
    hSame | ⟨asked, room, rfl⟩ | ⟨i, asked, room, phase, after, shared, hTurn⟩
  · rw [hSame]
  · rfl
  · obtain ⟨hCaller, hTurn, hMove⟩ := hTurn
    rw [hMove]
    cases hTurn with
    | record =>
      have hNe : asked ≠ flow := by
        rintro rfl
        rw [records_eq_true_iff.mpr ⟨i, room, _, _, rfl, hCaller⟩] at h
        cases h
      exact outcome?_record_of_ne hNe
    | withdraw hFree =>
      rw [Machine.withdraw]
      split <;> rfl
    | _ => rfl

theorem Sound.outcome?_move_of_records (h : m.Sound) (hRecords : m.records flow made = true) :
    m.archive.outcome? flow = none ∧ ((m.move made).archive.outcome? flow).isSome := by
  obtain ⟨i, room, attempt, outcome, rfl, hCaller⟩ := records_eq_true_iff.mp hRecords
  have hMove : (m.move (.step i)).archive = m.archive.record flow outcome := by
    simp [Machine.move, step?, hCaller]
  rw [hMove, outcome?_record_self]
  exact ⟨(h.fits i flow _ ⟨room, hCaller⟩).unrecorded attempt rfl rfl, rfl⟩

theorem Sound.recordings_add (h : m.Sound) (flow : EventId) (moves : List Move) :
    m.recordings flow moves + (m.archive.outcome? flow).isSome.toNat =
      ((m.play moves).archive.outcome? flow).isSome.toNat := by
  induction moves generalizing m with
  | nil => exact Nat.zero_add _
  | cons made rest ih =>
    have hRest := ih (h.move made)
    rw [recordings, play_cons, ← hRest]
    cases hRecords : m.records flow made with
    | false =>
      rw [outcome?_move_of_not_records hRecords]
      simp
    | true =>
      obtain ⟨hNone, hSome⟩ := h.outcome?_move_of_records hRecords
      rw [hNone, hSome]
      simp [Nat.add_comm]

theorem Sound.outcome?_play {outcome : Outcome} (h : m.Sound) (moves : List Move)
    (hOutcome : m.archive.outcome? flow = some outcome) :
    (m.play moves).archive.outcome? flow = some outcome := by
  induction moves generalizing m with
  | nil => exact hOutcome
  | cons made rest ih =>
    refine ih (h.move made) ?_
    cases hRecords : m.records flow made with
    | false => exact (outcome?_move_of_not_records hRecords).trans hOutcome
    | true => cases hOutcome.symm.trans (h.outcome?_move_of_records hRecords).1

theorem Sound.querying_unique {first second : Attempt} (h : m.Sound)
    (hAt : m.At i flow (.querying first)) (hOther : m.At j flow (.querying second)) : i = j := by
  have hFirst := (h.fits i flow _ hAt).inflight first rfl
  have hSecond := (h.fits j flow _ hOther).inflight second rfl
  cases hFirst.symm.trans hSecond
  by_cases hSame : i = j
  · exact hSame
  · exact absurd rfl ((h.apart i j flow flow _ _ hSame hAt hOther).owned first rfl)

/-- However calls for any flows are made, interleaved, answered and dropped, at most one of them waits
for the events of a flow, the outcome of a flow is recorded once at most and stays, and every call that
goes home with an outcome has the one on record. -/
theorem single_flight (ownUser : UserId) (sorts : Bool) (before after : List Move) (flow : EventId) :
    let start := new (.empty ownUser sorts)
    let m := start.play before
    let last := start.play (before ++ after)
    (∀ i j first second, m.At i flow (.querying first) → m.At j flow (.querying second) → i = j) ∧
      start.recordings flow before = (m.archive.outcome? flow).isSome.toNat ∧
      (∀ outcome, m.archive.outcome? flow = some outcome →
        last.archive.outcome? flow = some outcome) ∧
      ∀ i outcome, m.At i flow (.finished (.ok outcome)) →
        m.archive.outcome? flow = some outcome := by
  intro start m last
  have hStart : start.Sound := sound_new _
  have hSound : m.Sound := hStart.play before
  refine ⟨fun _ _ _ _ => hSound.querying_unique, ?_, ?_, ?_⟩
  · have hCount := hStart.recordings_add flow before
    have hEmpty : start.archive.outcome? flow = none := by
      simp [start, new, Archive.empty, Archive.outcome?]
    rwa [hEmpty] at hCount
  · intro outcome hOutcome
    rw [show last = m.play after from start.play_append before after]
    exact hSound.outcome?_play after hOutcome
  · intro i outcome hAt
    exact (hSound.fits i flow _ hAt).recorded outcome rfl

namespace Sample

def request : EventId := ⟨"$request", by decide⟩

def done : HistoryEvent := ⟨"m.key.verification.done", .alice, 1, .object []⟩

/-- The first call is dropped while it queries, and the second, which waited for it, takes over. -/
def takeover : List Move :=
  [.call request .lobby, .call request .lobby, .step 0, .step 0, .step 0, .step 1, .step 1, .drop 0,
    .step 1, .step 1, .step 1, .step 1, .step 1, .step 1, .answer 1 (.ok [done]), .step 1, .step 1]

def takenOver : Machine := (new (.empty .alice false)).play takeover

end Sample

open Sample in
theorem outcome_shared_after_takeover : ∃ outcome,
    takenOver.At 1 request (.finished (.ok outcome)) ∧
      takenOver.archive.outcome? request = some outcome ∧
      takenOver.At 0 request .dropped := by
  have hDone : takenOver.At 1 request (.finished (.ok .verified)) := ⟨.lobby, by cbv⟩
  refine ⟨.verified, hDone, ?_, .lobby, by cbv⟩
  exact (single_flight .alice false takeover [] request).2.2.2 1 .verified hDone

end DeviceTrust.Resolution.Machine
