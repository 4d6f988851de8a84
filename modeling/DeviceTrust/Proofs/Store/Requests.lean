import DeviceTrust.Proofs.Since
import DeviceTrust.Store.Memory
import Std.Data.TreeMap.Lemmas
/-! # What a memory store remembers of its requests

A store holds the last request that was saved under each id, and an index entry for each text under
which a request was filed. The two answer to different histories: saving a request under a used id
drops the old request and keeps its entry.
-/

namespace DeviceTrust.MemoryStore

inductive Change where
  | saveDevices (devices : List Device)
  | setVerified (user : UserId) (verified : Bool)
  | saveRequest (request : KeyRequest)
  | deleteRequest (id : String)

def apply (store : MemoryStore) : Change → MemoryStore
  | .saveDevices devices => store.saveDevices devices
  | .setVerified user verified => store.setVerified user verified
  | .saveRequest request => store.saveRequest request
  | .deleteRequest id => store.deleteRequest id

def after (changes : List Change) : MemoryStore := changes.foldl apply empty

def Change.Drops (id : String) : Change → Prop
  | .saveRequest saved => saved.id = id
  | .deleteRequest deleted => deleted = id
  | .saveDevices _ | .setVerified .. => False

/-- The request was saved, and it was neither deleted nor replaced since. -/
def Live (changes : List Change) (request : KeyRequest) : Prop :=
  Since (fun _ change => change.Drops request.id) changes (.saveRequest request)

/-- The text is filed for another request, or a request is deleted whose key has that text. -/
def Refiles (text : String) (past : List Change) : Change → Prop
  | .saveRequest saved => saved.key.indexText = text
  | .deleteRequest deleted => ∃ request, Live past request ∧ request.id = deleted ∧
      request.key.indexText = text
  | .saveDevices _ | .setVerified .. => False

/-- The last that happened to the text is that a request with the id was filed under it. -/
def Filed (changes : List Change) (text id : String) : Prop :=
  ∃ request, request.key.indexText = text ∧ request.id = id ∧
    Since (Refiles text) changes (.saveRequest request)

theorem saveDevices_requests_index (store : MemoryStore) (devices : List Device) :
    (store.saveDevices devices).requests = store.requests ∧
      (store.saveDevices devices).index = store.index := by
  induction devices generalizing store with
  | nil => exact ⟨rfl, rfl⟩
  | cons device rest ih => exact ih (store.saveDevice device)

/-! ## The record, one change at a time -/

variable {past recent : List Change} {change : Change} {request : KeyRequest} {text id : String}
  {store other : MemoryStore}

theorem live_concat : Live (past ++ [change]) request ↔
    .saveRequest request = change ∨ (Live past request ∧ ¬ change.Drops request.id) :=
  since_concat

theorem filed_concat : Filed (past ++ [change]) text id ↔
    (∃ request, request.key.indexText = text ∧ request.id = id ∧ .saveRequest request = change) ∨
      (Filed past text id ∧ ¬ Refiles text past change) := by
  simp only [Filed, since_concat]
  constructor
  · rintro ⟨request, hText, hId, hLast | ⟨hSince, hChange⟩⟩
    · exact .inl ⟨request, hText, hId, hLast⟩
    · exact .inr ⟨⟨request, hText, hId, hSince⟩, hChange⟩
  · rintro (⟨request, hText, hId, hLast⟩ | ⟨⟨request, hText, hId, hSince⟩, hChange⟩)
    · exact ⟨request, hText, hId, .inl hLast⟩
    · exact ⟨request, hText, hId, .inr ⟨hSince, hChange⟩⟩

-- A request that is saved is dropped by its own save, so only changes of other ids are left.
theorem live_concat_of_not_drops (h : ¬ change.Drops request.id) :
    Live (past ++ [change]) request ↔ Live past request := by
  rw [live_concat]
  constructor
  · rintro (rfl | ⟨hLive, _⟩)
    · exact absurd rfl h
    · exact hLive
  · intro hLive
    exact .inr ⟨hLive, h⟩

theorem filed_concat_of_not_refiles (h : ¬ Refiles text past change) :
    Filed (past ++ [change]) text id ↔ Filed past text id := by
  rw [filed_concat]
  constructor
  · rintro (⟨request, hText, _, rfl⟩ | ⟨hFiled, _⟩)
    · exact absurd hText h
    · exact hFiled
  · intro hFiled
    exact .inr ⟨hFiled, h⟩

theorem live_save_iff {saved : KeyRequest} (h : saved.id = request.id) :
    Live (past ++ [.saveRequest saved]) request ↔ request = saved := by
  rw [live_concat, Change.saveRequest.injEq]
  constructor
  · rintro (hSaved | ⟨_, hDrops⟩)
    · exact hSaved
    · exact absurd h hDrops
  · exact .inl

theorem filed_save_iff {saved : KeyRequest} (h : saved.key.indexText = text) :
    Filed (past ++ [.saveRequest saved]) text id ↔ saved.id = id := by
  rw [filed_concat]
  constructor
  · rintro (⟨_, _, hId, hSaved⟩ | ⟨_, hRefiles⟩)
    · cases hSaved
      exact hId
    · exact absurd h hRefiles
  · intro hId
    exact .inl ⟨saved, h, hId, rfl⟩

theorem not_live_since_delete (h : .saveRequest request ∉ recent) :
    ¬ Live (past ++ .deleteRequest request.id :: recent) request :=
  not_since_of_ended rfl nofun h

theorem not_filed_since_delete {deleted : String} (h : Refiles text past (.deleteRequest deleted))
    (hSaved : ∀ saved, .saveRequest saved ∈ recent → saved.key.indexText ≠ text) :
    ¬ Filed (past ++ .deleteRequest deleted :: recent) text id := by
  rintro ⟨saved, hText, _, hSince⟩
  exact absurd hSince (not_since_of_ended h nofun fun hMem => hSaved saved hMem hText)

structure Recorded (past : List Change) (store : MemoryStore) : Prop where
  requests : ∀ {id request}, store.requests[id]? = some request ↔ request.id = id ∧ Live past request
  index : ∀ {text id}, store.index[text]? = some id ↔ Filed past text id

namespace Recorded

theorem nil : Recorded [] empty where
  requests {id request} := by
    refine iff_of_false ?_ fun h => not_since_nil h.2
    simp [empty]
  index {text id} := by
    refine iff_of_false ?_ ?_
    · simp [empty]
    · rintro ⟨_, _, _, hSince⟩
      exact not_since_nil hSince

theorem frame (h : Recorded past store) (hRequests : other.requests = store.requests)
    (hIndex : other.index = store.index)
    (hLive : ∀ request, Live (past ++ [change]) request ↔ Live past request)
    (hFiled : ∀ text id, Filed (past ++ [change]) text id ↔ Filed past text id) :
    Recorded (past ++ [change]) other where
  requests {id request} := by rw [hRequests, h.requests, hLive]
  index {text id} := by rw [hIndex, h.index, hFiled]

theorem saveRequest (h : Recorded past store) (saved : KeyRequest) :
    Recorded (past ++ [.saveRequest saved]) (store.saveRequest saved) where
  requests {id request} := by
    simp only [MemoryStore.saveRequest, Std.TreeMap.getElem?_insert, Std.compare_eq_iff_eq]
    split
    · next hId =>
      constructor
      · rintro ⟨⟩
        exact ⟨hId, (live_save_iff rfl).mpr rfl⟩
      · rintro ⟨rfl, hLive⟩
        rw [(live_save_iff hId).mp hLive]
    · next hId =>
      rw [h.requests]
      refine and_congr_right fun hRequest => (live_concat_of_not_drops ?_).symm
      rwa [hRequest]
  index {text id} := by
    simp only [MemoryStore.saveRequest, Std.TreeMap.getElem?_insert, Std.compare_eq_iff_eq]
    split
    · next hText => rw [filed_save_iff hText, Option.some.injEq]
    · next hText =>
      have hKept : ¬ Refiles text past (.saveRequest saved) := hText
      rw [h.index, filed_concat_of_not_refiles hKept]

theorem deleteRequest (h : Recorded past store) (deleted : String) :
    Recorded (past ++ [.deleteRequest deleted]) (store.deleteRequest deleted) := by
  rw [MemoryStore.deleteRequest]
  cases hFound : store.requests[deleted]? with
  | none =>
    have hNone : ∀ request, Live past request → deleted ≠ request.id := by
      intro request hLive hId
      cases hFound.symm.trans (h.requests.mpr ⟨hId.symm, hLive⟩)
    refine h.frame rfl rfl ?_ ?_
    · intro request
      constructor
      · intro hLive
        obtain hSaved | ⟨hLive, _⟩ := live_concat.mp hLive
        · cases hSaved
        · exact hLive
      · intro hLive
        have hKept : ¬ Change.Drops request.id (.deleteRequest deleted) := hNone request hLive
        exact (live_concat_of_not_drops hKept).mpr hLive
    · intro text id
      refine filed_concat_of_not_refiles ?_
      rintro ⟨request, hLive, hId, _⟩
      exact hNone request hLive hId.symm
  | some found =>
    obtain ⟨hFoundId, hFoundLive⟩ := h.requests.mp hFound
    -- No other request stands under the id, so only the text of this one is cleared.
    have hRefiles {text : String} :
        Refiles text past (.deleteRequest deleted) ↔ found.key.indexText = text := by
      constructor
      · rintro ⟨request, hLive, hId, hText⟩
        cases hFound.symm.trans (h.requests.mpr ⟨hId, hLive⟩)
        exact hText
      · intro hText
        exact ⟨found, hFoundLive, hFoundId, hText⟩
    constructor
    · intro id request
      simp only [Std.TreeMap.getElem?_erase, Std.compare_eq_iff_eq]
      split
      · next hId =>
        refine iff_of_false nofun ?_
        rintro ⟨rfl, hLive⟩
        exact not_live_since_delete List.not_mem_nil (hId ▸ hLive)
      · next hId =>
        rw [h.requests]
        refine and_congr_right fun hRequest => (live_concat_of_not_drops ?_).symm
        rwa [hRequest]
    · intro text id
      simp only [Std.TreeMap.getElem?_erase, Std.compare_eq_iff_eq]
      split
      · next hText => exact iff_of_false nofun (not_filed_since_delete (hRefiles.mpr hText) nofun)
      · next hText =>
        rw [h.index, filed_concat_of_not_refiles]
        rwa [hRefiles]

theorem step (h : Recorded past store) (change : Change) :
    Recorded (past ++ [change]) (store.apply change) := by
  cases change with
  | saveDevices devices =>
    obtain ⟨hRequests, hIndex⟩ := saveDevices_requests_index store devices
    exact h.frame hRequests hIndex (fun _ => live_concat_of_not_drops id)
      fun _ _ => filed_concat_of_not_refiles id
  | setVerified user verified =>
    exact h.frame rfl rfl (fun _ => live_concat_of_not_drops id)
      fun _ _ => filed_concat_of_not_refiles id
  | saveRequest saved => exact h.saveRequest saved
  | deleteRequest deleted => exact h.deleteRequest deleted

theorem run (h : Recorded past store) (changes : List Change) :
    Recorded (past ++ changes) (changes.foldl apply store) := by
  induction changes generalizing past store with
  | nil => simpa using h
  | cons change rest ih => simpa using ih (h.step change)

end Recorded

theorem recorded_after (changes : List Change) : Recorded changes (after changes) :=
  Recorded.nil.run changes

/-- The store finds a request that still stands, if the last request that was filed under the text of
the key had its id. Nothing compares the two keys. -/
theorem request?_after_eq_some_iff {changes : List Change} {key : RequestedKey} :
    (after changes).request? key = some request ↔
      Live changes request ∧ Filed changes key.indexText request.id := by
  have h := recorded_after changes
  rw [request?, Option.bind_eq_some_iff]
  constructor
  · rintro ⟨id, hFiled, hRequest⟩
    obtain ⟨rfl, hLive⟩ := h.requests.mp hRequest
    exact ⟨hLive, h.index.mp hFiled⟩
  · rintro ⟨hLive, hFiled⟩
    exact ⟨request.id, h.index.mpr hFiled, h.requests.mpr ⟨rfl, hLive⟩⟩

end DeviceTrust.MemoryStore
