import DeviceTrust.Proofs.Samples
import DeviceTrust.Proofs.Store.Requests
import Mathlib.Data.List.Induction
/-! # Requests that are lost

A request that stands is to be found under its key. Two histories break this: deleting one of two
requests for a text takes out the entry of both, and an entry may lead to an id under which nothing
stands any more. There are no others.
-/

namespace DeviceTrust.MemoryStore

/-- As long as the request stands, its key leads to some request. -/
def Findable (changes : List Change) (request : KeyRequest) : Prop :=
  Live changes request → ∃ found, (after changes).request? request.key = some found

/-- A request that stood for the text was deleted, and none was saved for it since. -/
def Cleared (changes : List Change) (text : String) : Prop :=
  ∃ past deleted recent, changes = past ++ .deleteRequest deleted.id :: recent ∧
    Live past deleted ∧ deleted.key.indexText = text ∧
    ∀ saved, .saveRequest saved ∈ recent → saved.key.indexText ≠ text

/-- The last request that was filed for the text had an id under which nothing stands any more. -/
def Stale (changes : List Change) (text : String) : Prop :=
  ∃ id, Filed changes text id ∧ ∀ request, Live changes request → request.id ≠ id

/-- The request stands, but the entry of its key is gone or leads nowhere. -/
def Lost (changes : List Change) (request : KeyRequest) : Prop :=
  Live changes request ∧
    (Cleared changes request.key.indexText ∨ Stale changes request.key.indexText)

instance (id : String) : (change : Change) → Decidable (change.Drops id)
  | .saveRequest saved => inferInstanceAs (Decidable (saved.id = id))
  | .deleteRequest deleted => inferInstanceAs (Decidable (deleted = id))
  | .saveDevices _ | .setVerified .. => .isFalse not_false

variable {changes past : List Change} {change : Change} {request deleted : KeyRequest}
  {text id other : String}

/-! ## A text is cleared or filed, once it was ever saved -/

theorem cleared_delete (h : Live past deleted) :
    Cleared (past ++ [.deleteRequest deleted.id]) deleted.key.indexText :=
  ⟨past, deleted, [], rfl, h, rfl, nofun⟩

theorem Cleared.concat (h : Cleared past text)
    (hChange : ∀ saved, change = .saveRequest saved → saved.key.indexText ≠ text) :
    Cleared (past ++ [change]) text := by
  obtain ⟨front, deleted, recent, rfl, hLive, hText, hRecent⟩ := h
  refine ⟨front, deleted, recent ++ [change], by simp, hLive, hText, ?_⟩
  intro saved hSaved
  obtain hSaved | hSaved := List.mem_append.mp hSaved
  · exact hRecent saved hSaved
  · exact hChange saved (List.mem_singleton.mp hSaved).symm

theorem cleared_of_not_filed (hSaved : .saveRequest request ∈ changes)
    (hText : request.key.indexText = text) (h : ∀ id, ¬ Filed changes text id) :
    Cleared changes text := by
  induction changes using List.reverseRecOn with
  | nil => cases hSaved
  | append_singleton past change ih =>
    have hChange : ∀ saved, change = .saveRequest saved → saved.key.indexText ≠ text := by
      rintro saved rfl hFiled
      exact h saved.id ((filed_save_iff hFiled).mpr rfl)
    have hPast : .saveRequest request ∈ past := by
      obtain hPast | hLast := List.mem_append.mp hSaved
      · exact hPast
      · exact absurd hText (hChange request (List.mem_singleton.mp hLast).symm)
    by_cases hRefiles : Refiles text past change
    · cases change with
      | saveRequest saved => exact absurd hRefiles (hChange saved rfl)
      | deleteRequest id =>
        obtain ⟨deleted, hLive, rfl, rfl⟩ := hRefiles
        exact cleared_delete hLive
      | saveDevices | setVerified => exact hRefiles.elim
    · refine (ih hPast fun id hFiled => h id ?_).concat hChange
      exact (filed_concat_of_not_refiles hRefiles).mpr hFiled

theorem Cleared.not_filed (h : Cleared changes text) : ¬ Filed changes text id := by
  obtain ⟨past, deleted, recent, rfl, hLive, hText, hRecent⟩ := h
  exact not_filed_since_delete ⟨deleted, hLive, rfl, hText⟩ hRecent

theorem Filed.unique (h : Filed changes text id) (hOther : Filed changes text other) : id = other := by
  have hIndex := (recorded_after changes).index.mpr h
  exact Option.some.inj (hIndex.symm.trans ((recorded_after changes).index.mpr hOther))

/-! ## What is lost -/

theorem exists_filed_of_found {key : RequestedKey}
    (h : ∃ found, (after changes).request? key = some found) :
    ∃ found, Live changes found ∧ Filed changes key.indexText found.id := by
  obtain ⟨found, hFound⟩ := h
  exact ⟨found, request?_after_eq_some_iff.mp hFound⟩

/-- A store loses a request just in these two ways. -/
theorem findable_iff_not_lost (changes : List Change) (request : KeyRequest) :
    Findable changes request ↔ ¬ Lost changes request := by
  constructor
  · rintro h ⟨hLive, hCleared | ⟨id, hFiled, hGone⟩⟩
    · obtain ⟨found, _, hFound⟩ := exists_filed_of_found (h hLive)
      exact hCleared.not_filed hFound
    · obtain ⟨found, hStands, hFound⟩ := exists_filed_of_found (h hLive)
      exact hGone found hStands (hFound.unique hFiled)
  · intro hKept hLive
    by_cases hFiled : ∃ id, Filed changes request.key.indexText id
    · obtain ⟨id, hFiled⟩ := hFiled
      have hStands : ∃ found, Live changes found ∧ found.id = id := by
        refine Classical.byContradiction fun hNone => hKept ⟨hLive, .inr ⟨id, hFiled, ?_⟩⟩
        intro found hFound hId
        exact hNone ⟨found, hFound, hId⟩
      obtain ⟨found, hFound, rfl⟩ := hStands
      exact ⟨found, request?_after_eq_some_iff.mpr ⟨hFound, hFiled⟩⟩
    · have hCleared := cleared_of_not_filed hLive.mem rfl (not_exists.mp hFiled)
      exact absurd ⟨hLive, .inl hCleared⟩ hKept

namespace Sample

def ofLobby (id session : String) : KeyRequest := ⟨id, ⟨.lobby, .megolm, "sender", session⟩, true⟩

def twins : List Change :=
  [.saveRequest (ofLobby "1" "session")] ++ [.saveRequest (ofLobby "2" "session")]

def deletedTwin : List Change := twins ++ [.deleteRequest "1"]

/-- The second request is replaced by one for another key before it is deleted. -/
def replacedTwin : List Change :=
  twins ++ [.saveRequest (ofLobby "2" "other")] ++ [.deleteRequest "2"]

end Sample

open Sample in
theorem twins_are_lost : ¬ Findable deletedTwin (ofLobby "2" "session") ∧
    ¬ Findable replacedTwin (ofLobby "1" "session") := by
  have hFirst : Live [.saveRequest (ofLobby "1" "session")] (ofLobby "1" "session") :=
    ⟨[], [], rfl, by simp⟩
  have hSecond : Live twins (ofLobby "2" "session") := live_concat.mpr (.inl rfl)
  have hTwins : Live twins (ofLobby "1" "session") :=
    live_concat.mpr (.inr ⟨hFirst, by decide⟩)
  constructor
  · have hLive : Live deletedTwin (ofLobby "2" "session") :=
      live_concat.mpr (.inr ⟨hSecond, by decide⟩)
    have hNone : (after deletedTwin).request? (ofLobby "2" "session").key = none := by
      decide +kernel
    intro h
    obtain ⟨found, hFound⟩ := h hLive
    cases hNone.symm.trans hFound
  · have hReplaced : Live (twins ++ [.saveRequest (ofLobby "2" "other")])
        (ofLobby "1" "session") := live_concat.mpr (.inr ⟨hTwins, by decide⟩)
    have hLive : Live replacedTwin (ofLobby "1" "session") :=
      live_concat.mpr (.inr ⟨hReplaced, by decide⟩)
    have hNone : (after replacedTwin).request? (ofLobby "1" "session").key = none := by
      decide +kernel
    intro h
    obtain ⟨found, hFound⟩ := h hLive
    cases hNone.symm.trans hFound

end DeviceTrust.MemoryStore
