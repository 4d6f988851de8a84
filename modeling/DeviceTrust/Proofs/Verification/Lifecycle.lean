import DeviceTrust.Proofs.Samples
import DeviceTrust.Verification.Request
/-! # The first end decides

Requests, flows of short auth strings and flows of QR codes are moved by the engine's reports in one
way: any report may come at any time, the first that says done or cancelled ends the thing, and nothing
moves it from there. `Lifecycle` holds what the three have in common as facts about one report, and the
facts about a list of reports follow from them.
-/

namespace DeviceTrust

/-- What reports of type `υ` move from state to state, until one of them is a success or a cancellation. -/
structure Lifecycle (α σ υ : Type) where
  state : α → σ
  isTerminal : σ → Bool
  cancelInfo : α → Option CancelInfo
  apply : α → υ → α × Bool
  done : υ
  cancelled : CancelInfo → υ
  success : σ
  afterCancel : CancelInfo → σ → σ
  apply_of_terminal : ∀ a update, isTerminal (state a) = true → apply a update = (a, false)
  apply_done : ∀ a, isTerminal (state a) = false →
    state (apply a done).1 = success ∧ cancelInfo (apply a done).1 = cancelInfo a
  apply_cancelled : ∀ a info, isTerminal (state a) = false →
    state (apply a (cancelled info)).1 = afterCancel info (state a) ∧
      cancelInfo (apply a (cancelled info)).1 = some info
  apply_other : ∀ a update, isTerminal (state a) = false → update ≠ done →
    (∀ info, update ≠ cancelled info) →
    isTerminal (state (apply a update).1) = false ∧ cancelInfo (apply a update).1 = cancelInfo a
  isTerminal_success : isTerminal success = true
  isTerminal_afterCancel : ∀ info current, isTerminal (afterCancel info current) = true
  afterCancel_ne_success : ∀ info current, afterCancel info current ≠ success

namespace Lifecycle

variable {α σ υ : Type} (life : Lifecycle α σ υ)

def Ends (update : υ) : Prop := update = life.done ∨ ∃ info, update = life.cancelled info

def follow (a : α) (updates : List υ) : α := updates.foldl (fun a update => (life.apply a update).1) a

/-- The first end decides how a list of reports comes out for something that was not over before. -/
structure FirstEndDecides : Prop where
  over_iff : ∀ a updates, life.isTerminal (life.state a) = false →
    (life.isTerminal (life.state (life.follow a updates)) = true ↔
      ∃ update ∈ updates, life.Ends update)
  decided : ∀ a before last after, life.isTerminal (life.state a) = false →
    (∀ update ∈ before, ¬ life.Ends update) → life.Ends last →
    let live := life.follow a before
    let ended := (life.apply live last).1
    life.follow a (before ++ last :: after) = ended ∧
      (∀ middle update rest, after = middle ++ update :: rest →
        (life.apply (life.follow ended middle) update).2 = false) ∧
      (last = life.done →
        life.state ended = life.success ∧ life.cancelInfo ended = life.cancelInfo a) ∧
      ∀ info, last = life.cancelled info →
        life.state ended = life.afterCancel info (life.state live) ∧ life.cancelInfo ended = some info

variable {life} {a : α} {update : υ} {updates before after : List υ}

theorem follow_cons : life.follow a (update :: updates) = life.follow (life.apply a update).1 updates :=
  rfl

theorem follow_append : life.follow a (before ++ after) = life.follow (life.follow a before) after :=
  List.foldl_append

theorem follow_of_terminal (h : life.isTerminal (life.state a) = true) :
    life.follow a updates = a := by
  induction updates with
  | nil => rfl
  | cons update rest ih => rw [follow_cons, life.apply_of_terminal a update h, ih]

theorem apply_of_not_ends (hLive : life.isTerminal (life.state a) = false)
    (h : ¬ life.Ends update) : life.isTerminal (life.state (life.apply a update).1) = false ∧
      life.cancelInfo (life.apply a update).1 = life.cancelInfo a :=
  life.apply_other a update hLive (fun hDone => h (.inl hDone))
    fun info hCancelled => h (.inr ⟨info, hCancelled⟩)

theorem isTerminal_apply_of_ends (hLive : life.isTerminal (life.state a) = false)
    (h : life.Ends update) : life.isTerminal (life.state (life.apply a update).1) = true := by
  rcases h with rfl | ⟨info, rfl⟩
  · rw [(life.apply_done a hLive).1, life.isTerminal_success]
  · rw [(life.apply_cancelled a info hLive).1, life.isTerminal_afterCancel]

theorem follow_of_not_ends (hLive : life.isTerminal (life.state a) = false)
    (h : ∀ update ∈ updates, ¬ life.Ends update) :
    life.isTerminal (life.state (life.follow a updates)) = false ∧
      life.cancelInfo (life.follow a updates) = life.cancelInfo a := by
  induction updates generalizing a with
  | nil => exact ⟨hLive, rfl⟩
  | cons update rest ih =>
    obtain ⟨hStill, hInfo⟩ := apply_of_not_ends hLive (h update List.mem_cons_self)
    obtain ⟨hEnd, hRest⟩ := ih hStill fun other hOther => h other (List.mem_cons_of_mem _ hOther)
    exact ⟨hEnd, hRest.trans hInfo⟩

theorem isTerminal_follow_iff (hLive : life.isTerminal (life.state a) = false) :
    life.isTerminal (life.state (life.follow a updates)) = true ↔
      ∃ update ∈ updates, life.Ends update := by
  induction updates generalizing a with
  | nil => simp [follow, hLive]
  | cons update rest ih =>
    rw [follow_cons]
    by_cases hEnds : life.Ends update
    · have hOver := isTerminal_apply_of_ends hLive hEnds
      -- What comes after the first end is not looked at any more.
      rw [follow_of_terminal hOver]
      exact iff_of_true hOver ⟨update, List.mem_cons_self, hEnds⟩
    · rw [ih (apply_of_not_ends hLive hEnds).1]
      simp [hEnds]

theorem follow_cons_of_ends (hLive : life.isTerminal (life.state a) = false)
    (h : life.Ends update) : life.follow a (update :: after) = (life.apply a update).1 := by
  rw [follow_cons]
  exact follow_of_terminal (isTerminal_apply_of_ends hLive h)

theorem state_follow_done (life : Lifecycle α σ υ) {a : α} {after : List υ}
    (hLive : life.isTerminal (life.state a) = false) :
    life.state (life.follow a (life.done :: after)) = life.success := by
  rw [follow_cons_of_ends hLive (.inl rfl)]
  exact (life.apply_done a hLive).1

theorem state_follow_cancelled (life : Lifecycle α σ υ) {a : α} {after : List υ}
    (hLive : life.isTerminal (life.state a) = false) (info : CancelInfo) :
    life.state (life.follow a (life.cancelled info :: after)) =
      life.afterCancel info (life.state a) := by
  rw [follow_cons_of_ends hLive (.inr ⟨info, rfl⟩)]
  exact (life.apply_cancelled a info hLive).1

theorem firstEndDecides (life : Lifecycle α σ υ) : life.FirstEndDecides where
  over_iff _ _ hLive := isTerminal_follow_iff hLive
  decided a before last after hLive hBefore hEnds := by
    intro live ended
    obtain ⟨hStill, hInfo⟩ := follow_of_not_ends hLive hBefore
    have hOver : life.isTerminal (life.state ended) = true := isTerminal_apply_of_ends hStill hEnds
    refine ⟨?_, ?_, ?_, ?_⟩
    · rw [follow_append]
      exact follow_cons_of_ends hStill hEnds
    · intro middle update rest _
      rw [follow_of_terminal hOver, life.apply_of_terminal ended update hOver]
    · rintro rfl
      obtain ⟨hState, hSame⟩ := life.apply_done live hStill
      exact ⟨hState, hSame.trans hInfo⟩
    · rintro info rfl
      exact life.apply_cancelled live info hStill

/-! ## When there is a cancellation on record -/

/-- There is a cancellation on record just when the thing is over and did not succeed. -/
def Explained (life : Lifecycle α σ υ) (a : α) : Prop :=
  (life.cancelInfo a).isSome ↔
    life.isTerminal (life.state a) = true ∧ life.state a ≠ life.success

theorem Explained.apply (h : life.Explained a) (update : υ) :
    life.Explained (life.apply a update).1 := by
  cases hOver : life.isTerminal (life.state a) with
  | true => rwa [life.apply_of_terminal a update hOver]
  | false =>
    -- Nothing was on record so far, so that only this report can bring a cancellation.
    have hNone : life.cancelInfo a = none := by
      refine Option.not_isSome_iff_eq_none.mp fun hSome => ?_
      cases hOver.symm.trans (h.mp hSome).1
    by_cases hEnds : life.Ends update
    · rcases hEnds with rfl | ⟨info, rfl⟩
      · obtain ⟨hState, hSame⟩ := life.apply_done a hOver
        simp [Explained, hState, hSame, hNone]
      · obtain ⟨hState, hInfo⟩ := life.apply_cancelled a info hOver
        simp [Explained, hState, hInfo, life.isTerminal_afterCancel, life.afterCancel_ne_success]
    · obtain ⟨hLive, hSame⟩ := apply_of_not_ends hOver hEnds
      simp [Explained, hLive, hSame, hNone]

end Lifecycle

/-! ## Requests and flows -/

theorem Request.apply_of_live {request : Request} (h : request.state.isTerminal = false)
    (update : RequestUpdate) : (request.apply update).1 =
      { request.note update with state := request.target update } := by
  simp [Request.apply, h]

theorem QrCode.apply_of_live {qr : QrCode} (h : qr.state.isTerminal = false) (update : QrUpdate) :
    (qr.apply update).1 = { qr.note update with state := qr.target update } := by
  simp [QrCode.apply, h]

theorem Sas.apply_of_takes {sas : Sas} {update : SasUpdate} (h : sas.takes update = true) :
    (sas.apply update).1 = { sas.note update with state := update.target } := by
  simp [Sas.apply, h]

theorem Request.apply_snd_iff {request : Request} {update : RequestUpdate} :
    (request.apply update).2 = true ↔ (request.apply update).1.state ≠ request.state := by
  rw [apply]
  split
  · exact iff_of_false Bool.false_ne_true fun h => h rfl
  · exact bne_iff_ne

theorem Sas.apply_snd_iff {sas : Sas} {update : SasUpdate} :
    (sas.apply update).2 = true ↔ (sas.apply update).1.state ≠ sas.state := by
  rw [apply]
  split
  · exact bne_iff_ne
  · exact iff_of_false Bool.false_ne_true fun h => h rfl

theorem QrCode.apply_snd_iff {qr : QrCode} {update : QrUpdate} :
    (qr.apply update).2 = true ↔ (qr.apply update).1.state ≠ qr.state := by
  rw [apply]
  split
  · exact iff_of_false Bool.false_ne_true fun h => h rfl
  · exact bne_iff_ne

def Request.life : Lifecycle Request RequestState RequestUpdate where
  state := Request.state
  isTerminal := RequestState.isTerminal
  cancelInfo := Request.cancelInfo
  apply := Request.apply
  done := .done
  cancelled := .cancelled
  success := .accepted
  afterCancel info current :=
    if info.code = .timeout ∧ current = .pending then .expired
    else if info.byUs then .cancelledByUs
    else .cancelled
  apply_of_terminal _ _ h := if_pos h
  apply_done request h := by
    rw [Request.apply_of_live h]
    exact ⟨rfl, rfl⟩
  apply_cancelled request info h := by
    rw [Request.apply_of_live h]
    exact ⟨rfl, rfl⟩
  apply_other request update h hDone hCancelled := by
    rw [Request.apply_of_live h]
    cases update with
    | requested | ready => exact ⟨rfl, rfl⟩
    | done => exact absurd rfl hDone
    | cancelled info => exact absurd rfl (hCancelled info)
  isTerminal_success := rfl
  isTerminal_afterCancel info current := by
    split
    · rfl
    · split <;> rfl
  afterCancel_ne_success info current := by
    split
    · exact nofun
    · split <;> exact nofun

def Sas.life : Lifecycle Sas SasState SasUpdate where
  state := Sas.state
  isTerminal := SasState.isTerminal
  cancelInfo := Sas.cancelInfo
  apply := Sas.apply
  done := .done
  cancelled := .cancelled
  success := .verified
  afterCancel info _ := if info.byUs then .cancelledByUs else .cancelled
  apply_of_terminal _ _ h := by simp [Sas.apply, Sas.takes, h]
  apply_done sas h := by
    rw [Sas.apply_of_takes (by simp [Sas.takes, h])]
    exact ⟨rfl, rfl⟩
  apply_cancelled sas info h := by
    rw [Sas.apply_of_takes (by simp [Sas.takes, h])]
    exact ⟨rfl, rfl⟩
  apply_other sas update h hDone hCancelled := by
    rw [Sas.apply]
    split
    · cases update with
      | created | started | accepted | keysExchanged | confirmed => exact ⟨rfl, rfl⟩
      | done => exact absurd rfl hDone
      | cancelled info => exact absurd rfl (hCancelled info)
    · exact ⟨h, rfl⟩
  isTerminal_success := rfl
  isTerminal_afterCancel info _ := by split <;> rfl
  afterCancel_ne_success info _ := by split <;> exact nofun

def QrCode.life : Lifecycle QrCode QrState QrUpdate where
  state := QrCode.state
  isTerminal := QrState.isTerminal
  cancelInfo := QrCode.cancelInfo
  apply := QrCode.apply
  done := .done
  cancelled := .cancelled
  success := .verified
  afterCancel info _ := if info.byUs then .cancelledByUs else .cancelled
  apply_of_terminal _ _ h := if_pos h
  apply_done qr h := by
    rw [QrCode.apply_of_live h]
    exact ⟨rfl, rfl⟩
  apply_cancelled qr info h := by
    rw [QrCode.apply_of_live h]
    exact ⟨rfl, rfl⟩
  apply_other qr update h hDone hCancelled := by
    rw [QrCode.apply_of_live h]
    cases update with
    | started | reciprocated =>
      refine ⟨?_, rfl⟩
      dsimp only [QrCode.target]
      split
      · rfl
      · exact h
    | scanned => exact ⟨rfl, rfl⟩
    | done => exact absurd rfl hDone
    | cancelled info => exact absurd rfl (hCancelled info)
  isTerminal_success := rfl
  isTerminal_afterCancel info _ := by split <;> rfl
  afterCancel_ne_success info _ := by split <;> exact nofun

/-- What comes of requests that the engine does not tell to be done and cancelled both. -/
inductive Request.Reached : Request → Prop
  | ofInfo (ownUser : UserId) (defaultMethods : List Method) (info : RequestInfo)
    (h : ¬ (info.isDone = true ∧ info.cancelInfo.isSome = true)) :
    Reached (.ofInfo ownUser defaultMethods info)
  | apply {request : Request} (h : Reached request) (update : RequestUpdate) :
    Reached (request.apply update).1

inductive Sas.Reached : Sas → Prop
  | new (info : FlowInfo) : Reached (.new info)
  | apply {sas : Sas} (h : Reached sas) (update : SasUpdate) : Reached (sas.apply update).1

inductive QrCode.Reached : QrCode → Prop
  | start (flow : FlowId) (otherUser : UserId) (weStarted : Bool) (otherDevice : Option String) :
    Reached (.start flow otherUser weStarted otherDevice)
  | apply {qr : QrCode} (h : Reached qr) (update : QrUpdate) : Reached (qr.apply update).1
  | scan {qr : QrCode} (h : Reached qr) (device : String) :
    Reached { qr with otherDevice := some device }

theorem Request.explained_ofInfo {info : RequestInfo}
    (h : ¬ (info.isDone = true ∧ info.cancelInfo.isSome = true)) (ownUser : UserId)
    (defaultMethods : List Method) :
    Request.life.Explained (.ofInfo ownUser defaultMethods info) := by
  show info.cancelInfo.isSome = true ↔
    (initialState info).isTerminal = true ∧ initialState info ≠ .accepted
  rw [initialState]
  cases hDone : info.isDone with
  | true =>
    have hNone : ¬ info.cancelInfo.isSome = true := fun hSome => h ⟨hDone, hSome⟩
    simp [hNone]
  | false =>
    cases info.cancelInfo with
    | some cancel =>
      exact iff_of_true rfl ⟨Request.life.isTerminal_afterCancel cancel _,
        Request.life.afterCancel_ne_success cancel _⟩
    | none =>
      have hLive : (if info.theirMethods.isSome && info.ourMethods.isSome then RequestState.ready
          else .pending).isTerminal = false := by
        split <;> rfl
      exact iff_of_false nofun fun hOver => nomatch hLive.symm.trans hOver.1

theorem Request.Reached.explained {request : Request} (h : request.Reached) :
    Request.life.Explained request := by
  induction h with
  | ofInfo ownUser defaultMethods info h => exact explained_ofInfo h ownUser defaultMethods
  | apply _ update ih => exact ih.apply update

theorem Sas.Reached.explained {sas : Sas} (h : sas.Reached) : Sas.life.Explained sas := by
  induction h with
  | new info => simp [Lifecycle.Explained, Sas.life, Sas.new, SasState.isTerminal]
  | apply _ update ih => exact ih.apply update

theorem QrCode.Reached.explained {qr : QrCode} (h : qr.Reached) : QrCode.life.Explained qr := by
  induction h with
  | start flow otherUser weStarted otherDevice =>
    cases weStarted <;> simp [Lifecycle.Explained, QrCode.life, QrCode.start, QrState.isTerminal]
  | apply _ update ih => exact ih.apply update
  | scan _ device ih => exact ih

theorem RequestState.mem_cancelled_iff (state : RequestState) :
    state ∈ [cancelled, cancelledByUs, expired] ↔ state.isTerminal = true ∧ state ≠ accepted := by
  cases state <;> decide

theorem SasState.mem_cancelled_iff (state : SasState) :
    state ∈ [cancelled, cancelledByUs] ↔ state.isTerminal = true ∧ state ≠ verified := by
  cases state <;> decide

theorem QrState.mem_cancelled_iff (state : QrState) :
    state ∈ [cancelled, cancelledByUs] ↔ state.isTerminal = true ∧ state ≠ verified := by
  cases state <;> decide

/-- The first report of success or cancellation decides how requests and flows of both kinds end. So
there is a cancellation on record just when they are cancelled or expired. -/
theorem first_end_decides :
    Request.life.FirstEndDecides ∧ Sas.life.FirstEndDecides ∧ QrCode.life.FirstEndDecides ∧
      (∀ request : Request, request.Reached →
        (request.cancelInfo.isSome ↔ request.state ∈ [.cancelled, .cancelledByUs, .expired])) ∧
      (∀ sas : Sas, sas.Reached →
        (sas.cancelInfo.isSome ↔ sas.state ∈ [.cancelled, .cancelledByUs])) ∧
      ∀ qr : QrCode, qr.Reached →
        (qr.cancelInfo.isSome ↔ qr.state ∈ [.cancelled, .cancelledByUs]) := by
  refine ⟨Request.life.firstEndDecides, Sas.life.firstEndDecides, QrCode.life.firstEndDecides,
    ?_, ?_, ?_⟩
  · intro request h
    exact h.explained.trans request.state.mem_cancelled_iff.symm
  · intro sas h
    exact h.explained.trans sas.state.mem_cancelled_iff.symm
  · intro qr h
    exact h.explained.trans qr.state.mem_cancelled_iff.symm

namespace Request.Sample

def unanswered : Request :=
  .ofInfo .alice [.sas] ⟨.toDevice "flow", .alice, none, true, none, none, false, none⟩

def timeout : CancelInfo := .ofCode .timeout false

end Request.Sample

open Request.Sample in
theorem expired_before_done :
    (Request.life.follow unanswered [.requested, .cancelled timeout, .done]).state = .expired ∧
      (Request.life.follow unanswered [.requested, .cancelled timeout, .done]).cancelInfo =
        some timeout := by
  have hBefore : ∀ update ∈ [RequestUpdate.requested], ¬ Request.life.Ends update := by
    rintro update hMem (rfl | ⟨info, rfl⟩) <;> cases hMem with | tail _ hRest => cases hRest
  obtain ⟨hOver, _, _, hCancelled⟩ := first_end_decides.1.decided unanswered [.requested]
    (.cancelled timeout) [.done] rfl hBefore (.inr ⟨timeout, rfl⟩)
  have hFollow : Request.life.follow unanswered [.requested, .cancelled timeout, .done] = _ := hOver
  rw [hFollow]
  exact hCancelled timeout rfl

end DeviceTrust
