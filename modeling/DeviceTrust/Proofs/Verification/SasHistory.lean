import DeviceTrust.Proofs.Verification.Lifecycle
import Mathlib.Data.List.Induction
/-! # What short auth strings tell of their history

All that a flow of short auth strings shows can be read off what it heeded of the reports on it: nothing
after the first end, and no news of a start that was its own. The last report it heeded gives the state,
the last keys that were exchanged give the strings, and a report is announced just when it is heeded and
leads elsewhere.
-/

namespace DeviceTrust

namespace SasUpdate

def isEnd : SasUpdate → Bool
  | done | cancelled _ => true
  | _ => false

def keys? : SasUpdate → Option (List Nat × List Nat)
  | keysExchanged emoji decimals => some (emoji, decimals)
  | _ => none

theorem target_eq_showSas_iff {update : SasUpdate} :
    update.target = .showSas ↔ ∃ keys, update.keys? = some keys := by
  cases update with
  | keysExchanged emoji decimals => exact iff_of_true rfl ⟨(emoji, decimals), rfl⟩
  | cancelled info =>
    refine iff_of_false ?_ nofun
    rw [target, SasState.ofCancel]
    split <;> exact nofun
  | _ => exact iff_of_false nofun nofun

theorem isEnd_iff {update : SasUpdate} : update.isEnd = true ↔ Sas.life.Ends update := by
  cases update with
  | done => exact iff_of_true rfl (.inl rfl)
  | cancelled info => exact iff_of_true rfl (.inr ⟨info, rfl⟩)
  | created | started | accepted | keysExchanged | confirmed =>
    refine iff_of_false Bool.false_ne_true ?_
    rintro (hDone | ⟨info, hCancelled⟩)
    · cases hDone
    · cases hCancelled

def upToEnd : List SasUpdate → List SasUpdate
  | [] => []
  | update :: rest => if update.isEnd then [update] else update :: upToEnd rest

variable {before after : List SasUpdate}

theorem upToEnd_append_of_ended (h : ∃ update ∈ before, update.isEnd = true) :
    upToEnd (before ++ after) = upToEnd before := by
  induction before with
  | nil => simp at h
  | cons update rest ih =>
    rw [List.cons_append, upToEnd, upToEnd]
    split
    · rfl
    · next hLive =>
      obtain ⟨last, hMem, hEnd⟩ := h
      obtain _ | ⟨_, hRest⟩ := hMem
      · exact absurd hEnd hLive
      · rw [ih ⟨last, hRest, hEnd⟩]

theorem upToEnd_append_of_live (h : ∀ update ∈ before, update.isEnd = false) :
    upToEnd (before ++ after) = before ++ upToEnd after := by
  induction before with
  | nil => rfl
  | cons update rest ih =>
    have hLive : ¬ update.isEnd = true := Bool.eq_false_iff.mp (h update List.mem_cons_self)
    rw [List.cons_append, upToEnd, if_neg hLive,
      ih fun other hOther => h other (List.mem_cons_of_mem update hOther), List.cons_append]

end SasUpdate

namespace FlowInfo

/-- That the other side started a flow is no news to the side that did. -/
def ignores (info : FlowInfo) (update : SasUpdate) : Bool := update == .started && info.weStarted

def heeded (info : FlowInfo) (updates : List SasUpdate) : List SasUpdate :=
  (SasUpdate.upToEnd updates).filter fun update => !info.ignores update

variable {info : FlowInfo} {before after updates : List SasUpdate} {update : SasUpdate}

theorem heeded_append_of_ended (h : ∃ update ∈ before, update.isEnd = true) :
    info.heeded (before ++ after) = info.heeded before := by
  rw [heeded, heeded, SasUpdate.upToEnd_append_of_ended h]

theorem heeded_append_of_live (h : ∀ update ∈ before, update.isEnd = false) :
    info.heeded (before ++ after) = info.heeded before ++ info.heeded after := by
  have hBefore : SasUpdate.upToEnd before = before := by
    have hNil : SasUpdate.upToEnd (before ++ []) = before ++ SasUpdate.upToEnd [] :=
      SasUpdate.upToEnd_append_of_live h
    rwa [SasUpdate.upToEnd, List.append_nil] at hNil
  rw [heeded, heeded, heeded, SasUpdate.upToEnd_append_of_live h, List.filter_append, hBefore]

theorem ignores_of_mem_heeded (h : update ∈ info.heeded updates) : info.ignores update = false := by
  simpa using (List.mem_filter.mp h).2

theorem heeded_cons (info : FlowInfo) (update : SasUpdate) (updates : List SasUpdate) :
    info.heeded (update :: updates) = (if info.ignores update = true then [] else [update]) ++
      if update.isEnd = true then [] else info.heeded updates := by
  rw [heeded, SasUpdate.upToEnd, heeded]
  split <;> cases hIgnores : info.ignores update <;> simp [hIgnores]

end FlowInfo

namespace Sas

variable {info : FlowInfo} {before after updates : List SasUpdate} {update : SasUpdate}

theorem info_apply (sas : Sas) (update : SasUpdate) : (sas.apply update).1.info = sas.info := by
  rw [apply]
  split
  · cases update <;> rfl
  · rfl

theorem info_follow (info : FlowInfo) (updates : List SasUpdate) :
    (life.follow (.new info) updates).info = info := by
  induction updates using List.reverseRecOn with
  | nil => rfl
  | append_singleton before update ih =>
    rw [Lifecycle.follow_append]
    exact (info_apply _ update).trans ih

theorem isTerminal_follow_new_iff :
    (life.follow (.new info) updates).state.isTerminal = true ↔
      ∃ update ∈ updates, update.isEnd = true := by
  simp only [SasUpdate.isEnd_iff]
  exact life.firstEndDecides.over_iff (.new info) updates rfl

theorem takes_follow_new_iff : (life.follow (.new info) before).takes update = true ↔
    (∀ earlier ∈ before, earlier.isEnd = false) ∧ info.ignores update = false := by
  have hLive : (life.follow (.new info) before).state.isTerminal = false ↔
      ∀ earlier ∈ before, earlier.isEnd = false := by
    rw [← Bool.not_eq_true, isTerminal_follow_new_iff]
    simp only [not_exists, not_and, Bool.not_eq_true]
  rw [takes, info_follow, Bool.and_eq_true_iff, Bool.not_eq_true', Bool.not_eq_true', hLive]
  rfl

theorem apply_of_not_takes {sas : Sas} (h : sas.takes update = false) :
    sas.apply update = (sas, false) := by
  rw [apply, if_neg (Bool.eq_false_iff.mp h)]

theorem takes_follow_new_iff_prefix : (life.follow (.new info) before).takes update = true ↔
    info.heeded before ++ [update] <+: info.heeded (before ++ update :: after) := by
  rw [takes_follow_new_iff]
  by_cases hLive : ∀ earlier ∈ before, earlier.isEnd = false
  · rw [and_iff_right hLive, FlowInfo.heeded_append_of_live hLive, List.prefix_append_right_inj,
      FlowInfo.heeded_cons]
    cases hIgnores : info.ignores update with
    | false =>
      rw [if_neg Bool.false_ne_true]
      exact iff_of_true rfl (List.prefix_append [update] _)
    | true =>
      -- The report itself is left out, and all that is heeded later are other reports.
      rw [if_pos rfl, List.nil_append]
      refine iff_of_false Bool.true_eq_false.mp fun hPrefix => ?_
      have hMem := hPrefix.subset (List.mem_singleton_self update)
      split at hMem
      · cases hMem
      · cases hIgnores.symm.trans (FlowInfo.ignores_of_mem_heeded hMem)
  · have hEnded : ∃ earlier ∈ before, earlier.isEnd = true := by simpa using hLive
    rw [FlowInfo.heeded_append_of_ended hEnded]
    refine iff_of_false (fun hTakes => hLive hTakes.1) fun hPrefix => ?_
    have hLength := hPrefix.length_le
    rw [List.length_append, List.length_singleton] at hLength
    omega

theorem heeded_concat : info.heeded (before ++ [update]) = info.heeded before ++
    if (life.follow (.new info) before).takes update = true then [update] else [] := by
  by_cases hLive : ∀ earlier ∈ before, earlier.isEnd = false
  · have hTakes : (life.follow (.new info) before).takes update = true ↔
        info.ignores update = false := takes_follow_new_iff.trans (and_iff_right hLive)
    have hNil : info.heeded [] = [] := rfl
    rw [FlowInfo.heeded_append_of_live hLive, FlowInfo.heeded_cons, hNil]
    simp only [hTakes]
    cases info.ignores update <;> simp
  · have hEnded : ∃ earlier ∈ before, earlier.isEnd = true := by simpa using hLive
    rw [FlowInfo.heeded_append_of_ended hEnded, if_neg, List.append_nil]
    exact fun hTakes => hLive (takes_follow_new_iff.mp hTakes).1

/-! ## What is shown -/

def lastKeys? (heeded : List SasUpdate) : Option (List Nat × List Nat) :=
  (heeded.filterMap SasUpdate.keys?).getLast?

/-- The flow shows what comes of some reports that it heeded. -/
structure Shows (heeded : List SasUpdate) (sas : Sas) : Prop where
  state : sas.state = match heeded.getLast? with
    | some last => last.target
    | none => .unknown
  emoji : sas.emoji = (lastKeys? heeded).map fun keys => Emoji.ofIndices keys.1
  decimals : sas.decimals = (lastKeys? heeded).map fun keys => decimalText keys.2
  cancelInfo_iff : ∀ info, sas.cancelInfo = some info ↔ heeded.getLast? = some (.cancelled info)

variable {sas : Sas} {heeded : List SasUpdate}

theorem shows_new (info : FlowInfo) : Shows [] (.new info) :=
  ⟨rfl, rfl, rfl, fun _ => iff_of_false nofun nofun⟩

theorem lastKeys?_concat (heeded : List SasUpdate) (update : SasUpdate) :
    lastKeys? (heeded ++ [update]) = update.keys?.or (lastKeys? heeded) := by
  rw [lastKeys?, List.filterMap_append, lastKeys?]
  cases hKeys : update.keys? with
  | none => simp [hKeys]
  | some keys => simp [hKeys]

theorem isTerminal_ofCancel (info : CancelInfo) : (SasState.ofCancel info).isTerminal = true :=
  life.isTerminal_afterCancel info .unknown

theorem Shows.cancelInfo_eq_none (h : sas.Shows heeded) (hLive : sas.state.isTerminal = false) :
    sas.cancelInfo = none := by
  refine Option.eq_none_iff_forall_ne_some.mpr fun info hInfo => ?_
  have hState := h.state
  rw [(h.cancelInfo_iff info).mp hInfo] at hState
  rw [hState] at hLive
  cases (isTerminal_ofCancel info).symm.trans hLive

theorem Shows.note (h : sas.Shows heeded) (hLive : sas.state.isTerminal = false) (update : SasUpdate) :
    Shows (heeded ++ [update]) { sas.note update with state := update.target } := by
  have hNone := h.cancelInfo_eq_none hLive
  have hLast : (heeded ++ [update]).getLast? = some update := List.getLast?_concat
  have hKeys := lastKeys?_concat heeded update
  constructor
  · rw [hLast]
  · rw [hKeys]
    cases update with
    | keysExchanged => rfl
    | _ => exact h.emoji
  · rw [hKeys]
    cases update with
    | keysExchanged => rfl
    | _ => exact h.decimals
  · intro info
    rw [hLast, Option.some.injEq]
    cases update with
    | cancelled other =>
      rw [SasUpdate.cancelled.injEq]
      exact Option.some_inj
    | _ => exact iff_of_false (fun hInfo => nomatch hNone.symm.trans hInfo) nofun

theorem Shows.follow (info : FlowInfo) (updates : List SasUpdate) :
    (life.follow (.new info) updates).Shows (info.heeded updates) := by
  induction updates using List.reverseRecOn with
  | nil => exact shows_new info
  | append_singleton before update ih =>
    rw [Lifecycle.follow_append, heeded_concat]
    cases hTakes : (life.follow (.new info) before).takes update with
    | true =>
      have hLive : (life.follow (.new info) before).state.isTerminal = false :=
        Bool.not_eq_true' _ ▸ (Bool.and_eq_true_iff.mp hTakes).1
      have hNext : life.follow (life.follow (.new info) before) [update] = _ :=
        apply_of_takes hTakes
      rw [hNext, if_pos rfl]
      exact ih.note hLive update
    | false =>
      have hSame : life.follow (life.follow (.new info) before) [update] = _ :=
        congrArg Prod.fst (apply_of_not_takes hTakes)
      rw [hSame, if_neg Bool.false_ne_true, List.append_nil]
      exact ih

theorem apply_snd_follow_new_iff : ((life.follow (.new info) before).apply update).2 = true ↔
    info.heeded before ++ [update] <+: info.heeded (before ++ update :: after) ∧
      update.target ≠ (life.follow (.new info) before).state := by
  rw [← takes_follow_new_iff_prefix]
  cases hTakes : (life.follow (.new info) before).takes update with
  | true =>
    rw [apply, if_pos hTakes, and_iff_right rfl]
    exact bne_iff_ne
  | false =>
    rw [apply_of_not_takes hTakes]
    exact iff_of_false Bool.false_ne_true fun h => Bool.false_ne_true h.1

theorem Shows.state_eq_showSas_iff (h : sas.Shows heeded) :
    sas.state = .showSas ↔ ∃ keys, heeded.getLast?.bind SasUpdate.keys? = some keys := by
  rw [h.state]
  cases heeded.getLast? with
  | none => exact iff_of_false nofun nofun
  | some last => exact SasUpdate.target_eq_showSas_iff

theorem lastKeys?_of_getLast? {keys : List Nat × List Nat}
    (h : heeded.getLast?.bind SasUpdate.keys? = some keys) : lastKeys? heeded = some keys := by
  obtain ⟨last, hLast, hKeys⟩ := Option.bind_eq_some_iff.mp h
  obtain ⟨earlier, rfl⟩ := List.getLast?_eq_some_iff.mp hLast
  rw [lastKeys?_concat, hKeys, Option.some_or]

/-- All that a flow of short auth strings shows, and all that is announced of it, tells what it heeded
of the reports on it. -/
theorem tells_what_it_heeded (info : FlowInfo) (updates : List SasUpdate) :
    let sas := life.follow (.new info) updates
    let heeded := info.heeded updates
    sas.Shows heeded ∧
      (sas.state = .showSas → sas.emoji.isSome = true ∧ sas.decimals.isSome = true) ∧
      ∀ before update after, updates = before ++ update :: after →
        (((life.follow (.new info) before).apply update).2 = true ↔
          info.heeded before ++ [update] <+: heeded ∧
            update.target ≠ (life.follow (.new info) before).state) := by
  intro sas heeded
  have hShows : sas.Shows heeded := .follow info updates
  refine ⟨hShows, ?_, ?_⟩
  · intro hState
    obtain ⟨keys, hKeys⟩ := hShows.state_eq_showSas_iff.mp hState
    rw [hShows.emoji, hShows.decimals, lastKeys?_of_getLast? hKeys]
    exact ⟨rfl, rfl⟩
  · rintro before update after rfl
    exact apply_snd_follow_new_iff

end Sas

end DeviceTrust
