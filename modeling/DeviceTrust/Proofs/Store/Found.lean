import DeviceTrust.Proofs.Store.Lost
/-! # Requests that are found

The index keeps entries of requests that were replaced or deleted. A lookup goes on from an entry to what
stands under its id, so all that it can find is the last request that was saved under an id. An entry that
leads to no request comes to life again when its id is used anew, whatever the new request is for.
-/

namespace DeviceTrust.MemoryStore

variable {changes : List Change} {request : KeyRequest}

theorem live_iff : Live changes request ↔
    ∃ past recent, changes = past ++ .saveRequest request :: recent ∧
      (∀ saved, .saveRequest saved ∈ recent → saved.id ≠ request.id) ∧
      .deleteRequest request.id ∉ recent := by
  refine exists_congr fun past => exists_congr fun recent => and_congr_right fun _ => ?_
  constructor
  · intro h
    have hKept : ∀ change ∈ recent, ¬ change.Drops request.id := by
      intro change hChange
      obtain ⟨middle, rest, hSplit⟩ := List.mem_iff_append.mp hChange
      exact h middle change rest hSplit
    exact ⟨fun saved hSaved => hKept _ hSaved, fun hDeleted => hKept _ hDeleted rfl⟩
  · rintro ⟨hSaved, hDeleted⟩ middle last rest rfl hDrops
    have hLast : last ∈ middle ++ last :: rest := by simp
    cases last with
    | saveRequest saved => exact hSaved saved hLast hDrops
    | deleteRequest id =>
      obtain rfl : id = request.id := hDrops
      exact hDeleted hLast
    | saveDevices | setVerified => exact hDrops

theorem request?_eq_none_of_stale {key : RequestedKey} (h : Stale changes key.indexText) :
    (after changes).request? key = none := by
  obtain ⟨id, hFiled, hGone⟩ := h
  refine Option.eq_none_iff_forall_ne_some.mpr fun found hFound => ?_
  obtain ⟨hLive, hFound⟩ := request?_after_eq_some_iff.mp hFound
  exact hGone found hLive (hFound.unique hFiled)

/-- What a lookup finds is the last request that was saved under its id, and the id was not deleted since.
So nothing is found under a deleted id until it is used again, and an entry that leads to such an id finds
nothing. -/
theorem found_requests_stand (changes : List Change) :
    (∀ key request, (after changes).request? key = some request →
      ∃ past recent, changes = past ++ .saveRequest request :: recent ∧
        (∀ saved, .saveRequest saved ∈ recent → saved.id ≠ request.id) ∧
        .deleteRequest request.id ∉ recent) ∧
    (∀ past id recent, changes = past ++ .deleteRequest id :: recent →
      (∀ saved, .saveRequest saved ∈ recent → saved.id ≠ id) →
      ∀ key request, (after changes).request? key = some request → request.id ≠ id) ∧
    ∀ key, Stale changes key.indexText → (after changes).request? key = none := by
  refine ⟨?_, ?_, fun key => request?_eq_none_of_stale⟩
  · intro key request hFound
    exact live_iff.mp (request?_after_eq_some_iff.mp hFound).1
  · rintro past id recent rfl hSaved key request hFound rfl
    have hNew : .saveRequest request ∉ recent := fun hMem => hSaved request hMem rfl
    exact not_live_since_delete hNew (request?_after_eq_some_iff.mp hFound).1

namespace Sample

def replaced : List Change :=
  [.saveRequest (ofLobby "1" "old"), .saveRequest (ofLobby "1" "new"), .deleteRequest "1"]

end Sample

open Sample in
theorem stale_entry_leads_to_next_request :
    Stale replaced (ofLobby "1" "old").key.indexText ∧
      (after replaced).request? (ofLobby "1" "old").key = none ∧
      (after (replaced ++ [.saveRequest (ofLobby "1" "other")])).request? (ofLobby "1" "old").key =
        some (ofLobby "1" "other") ∧
      ∃ past recent, replaced ++ [.saveRequest (ofLobby "1" "other")] =
        past ++ .saveRequest (ofLobby "1" "other") :: recent ∧
        (∀ saved, .saveRequest saved ∈ recent → saved.id ≠ "1") ∧
        .deleteRequest "1" ∉ recent := by
  have hEntry : (after replaced).index[(ofLobby "1" "old").key.indexText]? = some "1" := by
    decide +kernel
  have hGone : (after replaced).requests["1"]? = none := by decide +kernel
  have hStale : Stale replaced (ofLobby "1" "old").key.indexText := by
    refine ⟨"1", (recorded_after replaced).index.mp hEntry, ?_⟩
    intro request hLive hId
    cases hGone.symm.trans ((recorded_after replaced).requests.mpr ⟨hId, hLive⟩)
  have hFound : (after (replaced ++ [.saveRequest (ofLobby "1" "other")])).request?
      (ofLobby "1" "old").key = some (ofLobby "1" "other") := by decide +kernel
  exact ⟨hStale, (found_requests_stand replaced).2.2 _ hStale, hFound,
    (found_requests_stand _).1 _ _ hFound⟩

end DeviceTrust.MemoryStore
