import DeviceTrust.Proofs.Manager.Guarantees
import DeviceTrust.Proofs.Manager.Incoming
import DeviceTrust.Proofs.Verification.Lifecycle
import Mathlib.Data.List.Induction
/-! # Lookups that overtake the end of a request

A report that ends a request takes it off the table of tracked requests and then enters it in the table
of finished ones. A lookup that finds the flow in neither table tracks what the engine still knows of it.
If it searches in between, or has done so before, it tracks the request of a flow that is finished, and
that is the only way in which a finished flow is tracked again.
-/

namespace DeviceTrust.Manager

open Operation

variable {σ : Type} {m : Manager} {flow : String} {handle : Handle Request}
  {update : Manager → Manager} {request : Request} {report : RequestUpdate}
  {q : Operation Manager Reply}

/-! ## The report -/

/-- What is left of a report that took the request off the tracked ones. -/
def remembering (flow : String) (handle : Handle Request) : Operation Manager Reply :=
  .access (·.finish flow handle) fun _ => .done .done

def untracking (flow : String) (handle : Handle Request) : Operation Manager Reply :=
  .access (·.untrack flow) fun _ => remembering flow handle

def afterReport (flow : String) : Applied Request → Operation Manager Reply
  | .unknown => .done .failed
  | .live => .done .done
  | .over handle _ => untracking flow handle

theorem reply_requestUpdated (flow : String) (report : RequestUpdate) :
    (Command.requestUpdated flow report).reply = .access (fun m => (m.applyRequest flow report).2)
      fun m => afterReport flow (m.applyRequest flow report).1 := by
  refine congrArg (Operation.access _) (funext fun m => ?_)
  dsimp only
  cases (m.applyRequest flow report).1 <;> rfl

theorem RequestsFiled.applyRequest_of_ends (h : m.RequestsFiled) (hEnds : Request.life.Ends report)
    (hTracked : m.tracked? flow = some (handle, request)) :
    (m.applyRequest flow report).1 = .over handle (request.apply report).1 := by
  have hLive : request.state.isTerminal = false := (h.of_tracked? hTracked).2.2.2
  have hOver : Request.life.isTerminal (Request.life.state (request.apply report).1) = true :=
    Lifecycle.isTerminal_apply_of_ends hLive hEnds
  have hChanged : (request.apply report).2 = true := by
    refine Bool.of_not_eq_false fun hSame => ?_
    have hState : (request.apply report).1.state = request.state :=
      Request.state_apply_of_unchanged hSame
    cases hLive.symm.trans ((congrArg RequestState.isTerminal hState).symm.trans hOver)
  have hEnded : (request.apply report).1.state.isTerminal = true := hOver
  simp [applyRequest, hTracked, hChanged, hEnded]

theorem applyRequest_of_untracked (h : m.tracked? flow = none) :
    m.applyRequest flow report = (.unknown, m) := by
  rw [applyRequest, h]

/-- How far a report has come, with what holds of the tables by then. -/
inductive Course (flow : String) (report : RequestUpdate) (m : Manager) :
    Operation Manager Reply → Prop
  | fresh (hFiled : m.RequestsFiled) : Course flow report m (Command.requestUpdated flow report).reply
  | refused : Course flow report m (.done .failed)
  | untracking (handle : Handle Request) : Course flow report m (untracking flow handle)
  | remembering (handle : Handle Request) : Course flow report m (remembering flow handle)
  | returned (hFinished : m.finished[flow]?.isSome) : Course flow report m (.done .done)

def Closing : Operation Manager Reply → Prop
  | .done reply => reply = .done
  | .access _ next => ∀ m, next m = .done .done
  | .ask .. => False

theorem Course.respected (h : Course flow report m q) (hRespects : Respects flow update) :
    Course flow report (update m) q := by
  cases h with
  | fresh hFiled => exact .fresh (hRespects.filed m hFiled)
  | refused => exact .refused
  | untracking handle => exact .untracking handle
  | remembering handle => exact .remembering handle
  | returned hFinished => exact .returned (hRespects.finished m hFinished)

theorem Course.finished_of_done (h : Course flow report m (.done .done)) :
    m.finished[flow]?.isSome := by
  cases h with
  | returned hFinished => exact hFinished

theorem RequestsFiled.not_closing_requestUpdated (h : m.RequestsFiled)
    (hEnds : Request.life.Ends report) :
    ¬ Closing (Command.requestUpdated flow report).reply := by
  rw [reply_requestUpdated]
  intro hClosing
  have hNext : afterReport flow (m.applyRequest flow report).1 = .done .done := hClosing m
  cases hTracked : m.tracked? flow with
  | none =>
    rw [applyRequest_of_untracked hTracked] at hNext
    cases hNext
  | some found =>
    rw [h.applyRequest_of_ends hEnds hTracked] at hNext
    cases hNext

theorem not_closing_untracking (m : Manager) : ¬ Closing (untracking flow handle) := by
  intro hClosing
  cases hClosing m

/-! ## The pool -/

/-- The operations are a report that ends a request, and lookups. -/
structure Racing (flow : String) (report : RequestUpdate) (pool : Pool Manager σ Reply) : Prop where
  report : ∃ q, pool.left[0]? = some q ∧ Course flow report pool.state q
  lookups : ∀ i q, pool.left[i + 1]? = some q → q.Settled ∧ Looks flow q

inductive Moved (flow : String) (report : RequestUpdate) (pool : Pool Manager σ Reply) :
    Pool Manager σ Reply → Prop
  | idle : Moved flow report pool pool
  | looked {i : Nat} {update : Manager → Manager} {next : Manager → Operation Manager Reply}
    {rest : Operation Manager Reply} (world : σ)
    (hAt : pool.left[i + 1]? = some (.access update next)) (hLooks : Looks flow (.access update next))
    (hSettled : rest.Settled) (hRest : Looks flow rest) :
    Moved flow report pool ⟨update pool.state, world, pool.left.set (i + 1) rest⟩
  | refused (hAt : pool.left[0]? = some (Command.requestUpdated flow report).reply)
    (hFiled : pool.state.RequestsFiled) :
    Moved flow report pool ⟨pool.state, pool.world, pool.left.set 0 (.done .failed)⟩
  | ended (handle : Handle Request)
    (hAt : pool.left[0]? = some (Command.requestUpdated flow report).reply)
    (hFiled : pool.state.RequestsFiled) :
    Moved flow report pool ⟨(pool.state.applyRequest flow report).2, pool.world,
      pool.left.set 0 (untracking flow handle)⟩
  | untracked (handle : Handle Request) (hAt : pool.left[0]? = some (untracking flow handle)) :
    Moved flow report pool ⟨pool.state.untrack flow, pool.world,
      pool.left.set 0 (remembering flow handle)⟩
  | remembered (handle : Handle Request) (hAt : pool.left[0]? = some (remembering flow handle)) :
    Moved flow report pool ⟨pool.state.finish flow handle, pool.world,
      pool.left.set 0 (.done .done)⟩

variable {pool next : Pool Manager σ Reply} {i : Nat}

theorem Racing.moved_report (h : Racing flow report pool) (hEnds : Request.life.Ends report)
    (answer : Collaborators σ) : Moved flow report pool (pool.turn answer 0) := by
  obtain ⟨q, hAt, hCourse⟩ := h.report
  cases hCourse with
  | refused | returned =>
    rw [Pool.turn_of_done hAt]
    exact .idle
  | untracking handle =>
    rw [Pool.turn_of_access answer hAt]
    exact .untracked handle hAt
  | remembering handle =>
    rw [Pool.turn_of_access answer hAt]
    exact .remembered handle hAt
  | fresh hFiled =>
    have hAccess := hAt
    rw [reply_requestUpdated] at hAccess
    rw [Pool.turn_of_access answer hAccess]
    cases hTracked : pool.state.tracked? flow with
    | none =>
      rw [applyRequest_of_untracked hTracked]
      exact .refused hAt hFiled
    | some found =>
      rw [hFiled.applyRequest_of_ends hEnds hTracked]
      exact .ended found.1 hAt hFiled

theorem Racing.moved (h : Racing flow report pool) (hEnds : Request.life.Ends report)
    (answer : Collaborators σ) (i : Nat) : Moved flow report pool (pool.turn answer i) := by
  cases i with
  | zero => exact h.moved_report hEnds answer
  | succ i =>
    cases hAt : pool.left[i + 1]? with
    | none =>
      rw [Pool.turn_of_none hAt]
      exact .idle
    | some q =>
      obtain ⟨hSettled, hLooks⟩ := h.lookups i q hAt
      cases q with
      | done reply =>
        rw [Pool.turn_of_done hAt]
        exact .idle
      | ask call next => exact hSettled.elim
      | access update next =>
        rw [Pool.turn_of_access answer hAt]
        exact .looked _ hAt hLooks (settled_settle answer _ _) ((hLooks.2.1 _).settle answer _)

theorem isSome_getElem?_finish : (m.finish flow handle).finished[flow]?.isSome := by
  show (m.finished.insert flow handle)[flow]?.isSome
  rw [Std.TreeMap.getElem?_insert_self]
  rfl

theorem report_set_lookup (left : List (Operation Manager Reply)) (i : Nat)
    (rest : Operation Manager Reply) : (left.set (i + 1) rest)[0]? = left[0]? :=
  List.getElem?_set_ne (Nat.succ_ne_zero i)

theorem lookup_set_report (left : List (Operation Manager Reply)) (i : Nat)
    (rest : Operation Manager Reply) : (left.set 0 rest)[i + 1]? = left[i + 1]? :=
  List.getElem?_set_ne (Nat.succ_ne_zero i).symm

theorem Racing.of_report (h : Racing flow report pool) {state : Manager} {rest : Operation Manager Reply}
    (hCourse : Course flow report state rest) (world : σ) :
    Racing flow report ⟨state, world, pool.left.set 0 rest⟩ := by
  obtain ⟨q, hAt, _⟩ := h.report
  refine ⟨⟨rest, Pool.getElem?_set_self hAt, hCourse⟩, fun i q hLeft => ?_⟩
  rw [lookup_set_report] at hLeft
  exact h.lookups i q hLeft

theorem Racing.of_moved (h : Racing flow report pool) (hMoved : Moved flow report pool next) :
    Racing flow report next := by
  cases hMoved with
  | idle => exact h
  | refused => exact h.of_report .refused _
  | ended handle => exact h.of_report (.untracking handle) _
  | untracked handle => exact h.of_report (.remembering handle) _
  | remembered handle => exact h.of_report (.returned isSome_getElem?_finish) _
  | @looked i update access rest world hAt hLooks hSettled hRest =>
    obtain ⟨q, hReport, hCourse⟩ := h.report
    refine ⟨⟨q, ?_, hCourse.respected hLooks.1⟩, fun j other hLeft => ?_⟩
    · rwa [report_set_lookup]
    · rcases Pool.of_getElem?_set_eq_some hLeft with ⟨_, rfl⟩ | ⟨_, hOther⟩
      · exact ⟨hSettled, hRest⟩
      · exact h.lookups j other hOther

/-! ## Where the flow may be tracked again -/

/-- The request is off the tracked ones, and at most it is still to be remembered. -/
def OffTracked (pool : Pool Manager σ Reply) : Prop := ∃ q, pool.left[0]? = some q ∧ Closing q

/-- A lookup is about to track something under the flow id, whatever the tables hold by now. -/
def LookupEnters (flow : String) (pool : Pool Manager σ Reply) : Prop :=
  ∃ i q, pool.left[i + 1]? = some q ∧ Entering flow q

def Revived (flow : String) (pool : Pool Manager σ Reply) : Prop :=
  pool.state.tracked[flow]?.isSome ∨ LookupEnters flow pool

theorem OffTracked.closing (h : OffTracked pool) (hAt : pool.left[0]? = some q) : Closing q := by
  obtain ⟨q', hAt', hClosing⟩ := h
  cases hAt.symm.trans hAt'
  exact hClosing

theorem offTracked_set_lookup {state : Manager} {world : σ} {rest : Operation Manager Reply} :
    OffTracked (⟨state, world, pool.left.set (i + 1) rest⟩ : Pool Manager σ Reply) ↔
      OffTracked pool := by
  rw [OffTracked, report_set_lookup]
  rfl

/-- Once the request is off the tracked ones it stays so, and what is revived stays revived. -/
theorem Moved.revived (h : Moved flow report pool next) (hEnds : Request.life.Ends report)
    (hOff : OffTracked pool) :
    OffTracked next ∧ (Revived flow pool → Revived flow next) := by
  cases h with
  | idle => exact ⟨hOff, id⟩
  -- The turns by which the request is taken off come before that.
  | refused hAt hFiled | ended _ hAt hFiled =>
    exact absurd (hOff.closing hAt) (hFiled.not_closing_requestUpdated hEnds)
  | untracked handle hAt => exact absurd (hOff.closing hAt) (not_closing_untracking pool.state)
  | remembered handle hAt =>
    refine ⟨⟨_, Pool.getElem?_set_self hAt, rfl⟩, Or.imp_right ?_⟩
    rintro ⟨i, q, hLeft, hEnters⟩
    refine ⟨i, q, ?_, hEnters⟩
    rwa [lookup_set_report]
  | @looked i update access rest world hAt hLooks hSettled hRest =>
    refine ⟨offTracked_set_lookup.mpr hOff, ?_⟩
    rintro (hTracked | ⟨j, other, hLeft, hEnters⟩)
    · rcases hLooks.2.2 with hEnters | ⟨hSpares, _⟩
      · exact .inl (hEnters pool.state)
      · refine .inl ?_
        rwa [hSpares pool.state]
    · by_cases hIndex : i = j
      · -- The lookup that was about to enter the flow has just done so.
        subst hIndex
        cases hAt.symm.trans hLeft
        exact .inl (hEnters pool.state)
      · refine .inr ⟨j, other, ?_, hEnters⟩
        rwa [List.getElem?_set_ne fun hEq => hIndex (Nat.succ.inj hEq)]

theorem Moved.of_revived (h : Moved flow report pool next) (hOff : OffTracked next)
    (hRevived : Revived flow next) :
    (OffTracked pool ∧ Revived flow pool) ∨ LookupEnters flow next := by
  rcases hRevived with hTracked | hEnters
  · cases h with
    | idle => exact .inl ⟨hOff, .inl hTracked⟩
    | refused hAt => cases hOff.closing (Pool.getElem?_set_self hAt)
    | ended handle hAt =>
      exact absurd (hOff.closing (Pool.getElem?_set_self hAt)) (not_closing_untracking pool.state)
    | untracked handle =>
      have hNone : (pool.state.untrack flow).tracked[flow]? = none := Std.TreeMap.getElem?_erase_self
      rw [hNone] at hTracked
      cases hTracked
    | remembered handle hAt => exact .inl ⟨⟨_, hAt, fun _ => rfl⟩, .inl hTracked⟩
    | @looked i update access rest world hAt hLooks hSettled hRest =>
      have hOffBefore : OffTracked pool := offTracked_set_lookup.mp hOff
      rcases hLooks.2.2 with hEnters | ⟨hSpares, _⟩
      · exact .inl ⟨hOffBefore, .inr ⟨i, _, hAt, hEnters⟩⟩
      · refine .inl ⟨hOffBefore, .inl ?_⟩
        rwa [← hSpares pool.state]
  · exact .inr hEnters

/-! ## Whole schedules -/

variable {answer : Collaborators σ} {start : Pool Manager σ Reply} {turns : List Nat}

theorem Racing.play (h : Racing flow report start) (hEnds : Request.life.Ends report)
    (answer : Collaborators σ) (turns : List Nat) :
    Racing flow report (start.play answer turns) := by
  induction turns generalizing start with
  | nil => exact h
  | cons i rest ih => exact ih (h.of_moved (h.moved hEnds answer i))

/-- At some moment the request is off the tracked ones, while a lookup is about to track it. -/
def Overtaken (flow : String) (answer : Collaborators σ) (start : Pool Manager σ Reply)
    (turns : List Nat) : Prop :=
  ∃ moment, moment <+: turns ∧ OffTracked (start.play answer moment) ∧
    LookupEnters flow (start.play answer moment)

theorem Racing.revived_play (h : Racing flow report pool) (hEnds : Request.life.Ends report)
    (answer : Collaborators σ) (turns : List Nat) (hOff : OffTracked pool)
    (hRevived : Revived flow pool) :
    OffTracked (pool.play answer turns) ∧ Revived flow (pool.play answer turns) := by
  induction turns generalizing pool with
  | nil => exact ⟨hOff, hRevived⟩
  | cons i rest ih =>
    have hMoved := h.moved hEnds answer i
    obtain ⟨hStill, hKept⟩ := hMoved.revived hEnds hOff
    exact ih (h.of_moved hMoved) hStill (hKept hRevived)

/-- A flow that is finished is revived just when a lookup has overtaken its end. -/
theorem Racing.revived_iff_overtaken (h : Racing flow report start) (hEnds : Request.life.Ends report)
    (hStart : ¬ OffTracked start) :
    OffTracked (start.play answer turns) ∧ Revived flow (start.play answer turns) ↔
      Overtaken flow answer start turns := by
  constructor
  · induction turns using List.reverseRecOn with
    | nil => exact fun hRevived => absurd hRevived.1 hStart
    | append_singleton turns i ih =>
      rintro ⟨hOff, hRevived⟩
      have hMoved := (h.play hEnds answer turns).moved hEnds answer i
      rw [Pool.play_concat] at hOff hRevived
      rcases hMoved.of_revived hOff hRevived with hBefore | hEnters
      · obtain ⟨moment, hMoment, hAt⟩ := ih hBefore
        exact ⟨moment, hMoment.trans (List.prefix_append turns [i]), hAt⟩
      · refine ⟨turns ++ [i], List.prefix_rfl, ?_⟩
        rw [Pool.play_concat]
        exact ⟨hOff, hEnters⟩
  · rintro ⟨moment, ⟨rest, rfl⟩, hOff, hEnters⟩
    rw [Pool.play_append]
    exact (h.play hEnds answer moment).revived_play hEnds answer rest hOff (.inr hEnters)

/-! ## At rest -/

structure AtRest (flow : String) (pool : Pool Manager σ Reply) : Prop where
  returned : pool.left[0]? = some (.done .done)
  finished : pool.state.finished[flow]?.isSome
  untracked : pool.state.tracked[flow]? = none
  careful : ∀ i q, pool.left[i + 1]? = some q → q.Settled ∧ Careful flow q

theorem AtRest.turn (h : AtRest flow pool) (answer : Collaborators σ) (i : Nat) :
    AtRest flow (pool.turn answer i) := by
  cases i with
  | zero => rwa [Pool.turn_of_done h.returned]
  | succ i =>
    cases hAt : pool.left[i + 1]? with
    | none => rwa [Pool.turn_of_none hAt]
    | some q =>
      obtain ⟨hSettled, hCareful⟩ := h.careful i q hAt
      cases q with
      | done reply => rwa [Pool.turn_of_done hAt]
      | ask call next => exact hSettled.elim
      | access update next =>
        obtain ⟨hRespects, hSpares, hNext⟩ := hCareful
        rw [Pool.turn_of_access answer hAt]
        refine ⟨?_, hRespects.finished _ h.finished, (hSpares _).trans h.untracked,
          fun j other hLeft => ?_⟩
        · rw [report_set_lookup]
          exact h.returned
        · rcases Pool.of_getElem?_set_eq_some hLeft with ⟨_, rfl⟩ | ⟨_, hOther⟩
          · exact ⟨settled_settle answer _ _, (hNext _ h.finished).settle answer _⟩
          · exact h.careful j other hOther

theorem AtRest.play (h : AtRest flow pool) (answer : Collaborators σ) (turns : List Nat) :
    AtRest flow (pool.play answer turns) := by
  induction turns generalizing pool with
  | nil => exact h
  | cons i rest ih => exact ih (h.turn answer i)

theorem Racing.atRest (h : Racing flow report pool) (hReturned : pool.result? 0 = some .done)
    (hNot : ¬ Revived flow pool) : AtRest flow pool := by
  have hAt := Pool.result?_eq_some_iff.mp hReturned
  obtain ⟨q, hReport, hCourse⟩ := h.report
  cases hAt.symm.trans hReport
  obtain ⟨hTracked, hEnters⟩ := not_or.mp hNot
  refine ⟨hAt, ?_, Option.not_isSome_iff_eq_none.mp hTracked, fun i other hLeft => ?_⟩
  · exact hCourse.finished_of_done
  · obtain ⟨hSettled, hLooks⟩ := h.lookups i other hLeft
    exact ⟨hSettled, hLooks.careful hSettled fun hEntering => hEnters ⟨i, other, hLeft, hEntering⟩⟩

/-! ## The end of a request -/

def race (m : Manager) (world : σ) (flow : String) (report : RequestUpdate)
    (lookups : List Command) : Pool Manager σ Reply :=
  ⟨m, world, (Command.requestUpdated flow report :: lookups).map Command.reply⟩

theorem RequestsFiled.racing (h : m.RequestsFiled) {lookups : List Command}
    (hLookups : ∀ command ∈ lookups, command.LooksUp flow) (world : σ) :
    Racing flow report (m.race world flow report lookups) := by
  refine ⟨⟨_, rfl, .fresh h⟩, fun i q hLeft => ?_⟩
  have hMem : q ∈ lookups.map Command.reply := List.mem_of_getElem? hLeft
  obtain ⟨command, hCommand, rfl⟩ := List.mem_map.mp hMem
  exact ⟨Command.settled (hLookups command hCommand), Command.looks (hLookups command hCommand)⟩

theorem RequestsFiled.not_offTracked_race (h : m.RequestsFiled) (hEnds : Request.life.Ends report)
    {lookups : List Command} (world : σ) : ¬ OffTracked (m.race world flow report lookups) := by
  rintro ⟨q, hAt, hClosing⟩
  cases hAt
  exact h.not_closing_requestUpdated hEnds hClosing

theorem Revived.exists_tracked (h : Revived flow pool) (answer : Collaborators σ) :
    ∃ turns, (pool.play answer turns).state.tracked[flow]?.isSome := by
  rcases h with hTracked | ⟨i, q, hAt, hEnters⟩
  · exact ⟨[], hTracked⟩
  · refine ⟨[i + 1], ?_⟩
    cases q with
    | done | ask => exact hEnters.elim
    | access update next =>
      show (pool.turn answer (i + 1)).state.tracked[flow]?.isSome
      rw [Pool.turn_of_access answer hAt]
      exact hEnters pool.state

/-- After every run, a report that ends a request may be taken while lookups of its flow take turns with
it. Once it has returned, the flow is finished; and it is never tracked again just if no lookup was about
to track it when the request was already off the tracked ones. -/
theorem never_tracked_again_iff_not_overtaken (ownUser : UserId) (settings : Settings)
    (answer : Collaborators σ) (world : σ) (commands : List Command) (flow : String)
    (report : RequestUpdate) (lookups : List Command) (turns : List Nat)
    (hEnds : Request.life.Ends report) (hLookups : ∀ command ∈ lookups, command.LooksUp flow) :
    let before := (perform commands).run answer (new ownUser settings) world
    let start := before.state.race before.world flow report lookups
    let last := start.play answer turns
    last.result? 0 = some .done →
      last.state.finished[flow]?.isSome ∧
        ((∀ more, (last.play answer more).state.tracked[flow]? = none) ↔
          ¬ Overtaken flow answer start turns) := by
  intro before start last hReturned
  have hFiled : before.state.RequestsFiled :=
    ((filed_new ownUser settings).perform answer world commands).toRequestsFiled
  have hStart : Racing flow report start := hFiled.racing hLookups before.world
  have hLast : Racing flow report last := hStart.play hEnds answer turns
  have hAt := Pool.result?_eq_some_iff.mp hReturned
  have hOvertaken : Revived flow last ↔ Overtaken flow answer start turns := by
    rw [← hStart.revived_iff_overtaken hEnds (hFiled.not_offTracked_race hEnds before.world)]
    exact (and_iff_right ⟨_, hAt, rfl⟩).symm
  obtain ⟨q, hReport, hCourse⟩ := hLast.report
  cases hAt.symm.trans hReport
  refine ⟨hCourse.finished_of_done, ?_⟩
  rw [← hOvertaken]
  constructor
  · intro hNever hRevived
    obtain ⟨more, hTracked⟩ := hRevived.exists_tracked answer
    rw [hNever more] at hTracked
    cases hTracked
  · intro hNot more
    exact ((hLast.atRest hReturned hNot).play answer more).untracked

namespace Sample

def racing : Pool Manager Unit Reply :=
  let before := (perform requested).run obliging (new .alice .default) ()
  before.state.race before.world "flow" .done [.incomingRequest .bob "flow"]

/-- The lookup reads both tables between the two moves of the report. -/
def between : List Nat := [0, 0, 1, 1, 0]

/-- The lookup reads the first table before the report takes the request off it. -/
def ahead : List Nat := [0, 1, 0, 0]

end Sample

open Sample in
theorem success_stays_beside_lookup :
    (racing.play obliging ahead).result? 0 = some .done ∧
      ∀ more, ((racing.play obliging ahead).play obliging more).state.tracked["flow"]? = none := by
  have hReturned : (racing.play obliging ahead).result? 0 = some .done := by decide +kernel
  have hLookups : ∀ command ∈ [Command.incomingRequest .bob "flow"], command.LooksUp "flow" :=
    List.forall_mem_singleton.mpr rfl
  obtain ⟨_, hNever⟩ := never_tracked_again_iff_not_overtaken .alice .default obliging () requested
    "flow" .done [.incomingRequest .bob "flow"] ahead (.inl rfl) hLookups hReturned
  refine ⟨hReturned, hNever.mpr fun hOvertaken => ?_⟩
  have hFiled : ((perform requested).run obliging (new .alice .default) ()).state.RequestsFiled :=
    ((filed_new .alice .default).perform obliging () requested).toRequestsFiled
  obtain ⟨_, hTracked | ⟨i, q, hAt, hEnters⟩⟩ := ((hFiled.racing hLookups ()).revived_iff_overtaken
    (.inl rfl) (hFiled.not_offTracked_race (.inl rfl) ())).mpr hOvertaken
  · have hNone : (racing.play obliging ahead).state.tracked["flow"]?.isSome = false := by
      decide +kernel
    cases hNone.symm.trans hTracked
  · -- The lookup has found the request that was still tracked, and is done.
    have hFound : (racing.play obliging ahead).result? 1 = some (.request ⟨0⟩) := by decide +kernel
    have hTwo : (racing.play obliging ahead).left.length = 2 := by decide +kernel
    cases i with
    | zero =>
      cases (Pool.result?_eq_some_iff.mp hFound).symm.trans hAt
      exact hEnters
    | succ i =>
      have hIndex : i + 2 < (racing.play obliging ahead).left.length :=
        (List.getElem?_eq_some_iff.mp hAt).1
      omega

open Sample in
/-- When the report has returned, the request is over and not tracked; one turn later the flow is tracked
with a pending request. -/
theorem overtaken_request_is_tracked_again :
    let returned := racing.play obliging between
    returned.result? 0 = some .done ∧
      (returned.state.request? ⟨0⟩).map (·.state) = some .accepted ∧
      returned.state.tracked["flow"]? = none ∧
      ((returned.play obliging [1]).state.tracked? "flow").map (·.2.state) = some .pending := by
  refine ⟨?_, ?_, ?_, ?_⟩ <;> decide +kernel

end DeviceTrust.Manager
