import DeviceTrust.Proofs.Manager.Incoming
import DeviceTrust.Proofs.Manager.Remembering
import DeviceTrust.Proofs.Verification.Lifecycle
import Mathlib.Data.List.Basic
import Mathlib.Data.List.Nodup
/-! # Announcements

The feed of a manager tells what happens to its requests and flows. A report announces a change of the
state and an end, and just then the flow leaves its table; no other command announces either. A request
is announced as new when it is tracked for the first time, and never again, since what is known of a
flow is never forgotten.
-/

namespace DeviceTrust

namespace Manager

open Operation

variable {assumes : Manager → (call : Call) → call.Answer → Prop} {m next last : Manager}
  {flow : String} {handle : Handle Request} {request : Request} {flowHandle : Handle Flow}
  {value moved : Flow} {changed : Bool} {notices : List Notice}

/-! ## One command -/

/-- What is announced of a report on the thing that a table had under a flow id: nothing if its state
stayed as it was, a change, or a change and the end that takes it out of the table. -/
inductive Told {α : Type} (moves : Prop) (isOver : Bool) (changed removed : Handle α → Notice)
    (handle : Handle α) (entry : Option (Handle α)) : List Notice → Prop
  | nothing (hStill : ¬ moves) (hStays : entry = some handle) :
    Told moves isOver changed removed handle entry []
  | change (hMoves : moves) (hLive : isOver = false) (hStays : entry = some handle) :
    Told moves isOver changed removed handle entry [changed handle]
  | ending (hMoves : moves) (hOver : isOver = true) (hLeaves : entry = none) :
    Told moves isOver changed removed handle entry [changed handle, removed handle]

def Announces (m next : Manager) (notices : List Notice) : Command → Prop
  | .requestUpdated flow update =>
    match m.tracked? flow with
    | none => notices = []
    | some (handle, request) =>
      next.request? handle = some (request.apply update).1 ∧
        Told ((request.apply update).1.state ≠ request.state)
          (request.apply update).1.state.isTerminal .requestChanged .requestRemoved handle
          next.tracked[flow]? notices
  | .sasUpdated flow update =>
    match m.running? flow with
    | some (handle, .sas sas) =>
      next.flow? handle = some (.sas (sas.apply update).1) ∧
        Told ((sas.apply update).1.state ≠ sas.state) (sas.apply update).1.state.isTerminal
          .flowChanged .flowRemoved handle next.running[flow]? notices
    | _ => notices = []
  | .qrUpdated flow update =>
    match m.running? flow with
    | some (handle, .qr qr) =>
      next.flow? handle = some (.qr (qr.apply update).1) ∧
        Told ((qr.apply update).1.state ≠ qr.state) (qr.apply update).1.state.isTerminal
          .flowChanged .flowRemoved handle next.running[flow]? notices
    | _ => notices = []
  | .incomingRequest _ flow => notices = [] ∧ next.tracked = m.tracked ∨
    ∃ handle request, notices = [.newRequest handle] ∧ m.known? flow = none ∧
      next.tracked? flow = some (handle, request) ∧ request.state.isTerminal = false
  | .incomingFlow .. => notices = [] ∨ ∃ handle, notices = [.newFlow handle]
  | _ => notices = []

def Extends (m next : Manager) (command : Command) : Prop :=
  ∃ notices, next.feed.sent = m.feed.sent ++ notices ∧ Announces m next notices command

theorem requestReported_told {update : RequestUpdate}
    (hTracked : m.tracked? flow = some (handle, request))
    (h : RequestReported m flow handle request update next) :
    next.request? handle = some (request.apply update).1 ∧ ∃ notices,
      next.feed.sent = m.feed.sent ++ notices ∧
        Told ((request.apply update).1.state ≠ request.state)
          (request.apply update).1.state.isTerminal .requestChanged .requestRemoved handle
          next.tracked[flow]? notices := by
  obtain ⟨hKey, hRequest⟩ := tracked?_eq_some_iff.mp hTracked
  rw [← Request.apply_snd_iff]
  cases h with
  | unmoved hSame =>
    have hStill : ¬ (request.apply update).2 = true := Bool.eq_false_iff.mp hSame
    exact ⟨Registry.get?_set_self hRequest, [], (List.append_nil _).symm, .nothing hStill hKey⟩
  | moved hChanged hLive =>
    exact ⟨Registry.get?_set_self hRequest, [.requestChanged handle], rfl,
      .change hChanged hLive hKey⟩
  | ended hChanged hOver =>
    exact ⟨Registry.get?_set_self hRequest, [.requestChanged handle, .requestRemoved handle],
      List.append_assoc .., .ending hChanged hOver Std.TreeMap.getElem?_erase_self⟩

theorem reportFlow_told {step : Flow → Option (Flow × Bool)} (hFiled : m.Filed)
    (hRunning : m.running? flow = some (flowHandle, value)) (hStep : step value = some (moved, changed))
    (hReported : value.Reported moved changed) :
    (m.reportFlow flow step).flow? flowHandle = some moved ∧ ∃ notices,
      (m.reportFlow flow step).feed.sent = m.feed.sent ++ notices ∧
        Told (changed = true) moved.isTerminal .flowChanged .flowRemoved flowHandle
          (m.reportFlow flow step).running[flow]? notices := by
  obtain ⟨hKey, hFlow⟩ := running?_eq_some_iff.mp hRunning
  have hName : moved.id.text = flow :=
    (congrArg FlowId.text hReported.id_eq).trans (hFiled.of_running? hRunning).2.1
  have hNext : FlowReported m flowHandle moved changed (m.reportFlow flow step) :=
    reportFlow_reported hRunning hStep
  revert hNext
  generalize m.reportFlow flow step = next
  subst hName
  rintro (_ | hLive | hOver)
  · exact ⟨Registry.get?_set_self hFlow, [], (List.append_nil _).symm,
      .nothing Bool.false_ne_true hKey⟩
  · exact ⟨Registry.get?_set_self hFlow, [.flowChanged flowHandle], rfl, .change rfl hLive hKey⟩
  · exact ⟨Registry.get?_set_self hFlow, [.flowChanged flowHandle, .flowRemoved flowHandle],
      List.append_assoc .., .ending rfl hOver Std.TreeMap.getElem?_erase_self⟩

theorem extends_requestUpdated (flow : String) (update : RequestUpdate) :
    (Command.requestUpdated flow update).operation.Ensures assumes
      (fun _ next => Extends m next (.requestUpdated flow update)) m := by
  refine ensures_bind.mpr (requestUpdated_ensures ?_ ?_)
  · intro hNone
    refine ⟨[], (List.append_nil _).symm, ?_⟩
    simp only [Announces, hNone]
  · intro handle request hTracked
    obtain ⟨hNext, notices, hFeed, hTold⟩ :=
      requestReported_told hTracked (reportRequest_reported hTracked)
    refine ⟨notices, hFeed, ?_⟩
    simp only [Announces, hTracked]
    exact ⟨hNext, hTold⟩

theorem extends_sasUpdated (hFiled : m.Filed) (flow : String) (update : SasUpdate) :
    (Command.sasUpdated flow update).operation.Ensures assumes
      (fun _ next => Extends m next (.sasUpdated flow update)) m := by
  refine ensures_bind.mpr (flowUpdated_ensures ?_ ?_)
  · intro hNone
    refine ⟨[], (List.append_nil _).symm, ?_⟩
    rw [Announces]
    split
    · next hRunning => cases hNone _ _ hRunning
    · rfl
  · rintro handle (sas | qr) moved hRunning hStep
    · have hStep : sasStep update (.sas sas) =
          some (.sas (sas.apply update).1, (sas.apply update).2) := rfl
      obtain ⟨hNext, notices, hFeed, hTold⟩ := reportFlow_told hFiled hRunning hStep (.sas ..)
      rw [Sas.apply_snd_iff, Flow.isTerminal_sas] at hTold
      refine ⟨notices, hFeed, ?_⟩
      simp only [Announces, hRunning]
      exact ⟨hNext, hTold⟩
    · cases hStep

theorem extends_qrUpdated (hFiled : m.Filed) (flow : String) (update : QrUpdate) :
    (Command.qrUpdated flow update).operation.Ensures assumes
      (fun _ next => Extends m next (.qrUpdated flow update)) m := by
  refine ensures_bind.mpr (flowUpdated_ensures ?_ ?_)
  · intro hNone
    refine ⟨[], (List.append_nil _).symm, ?_⟩
    rw [Announces]
    split
    · next hRunning => cases hNone _ _ hRunning
    · rfl
  · rintro handle (sas | qr) moved hRunning hStep
    · cases hStep
    · have hStep : qrStep update (.qr qr) = some (.qr (qr.apply update).1, (qr.apply update).2) := rfl
      obtain ⟨hNext, notices, hFeed, hTold⟩ := reportFlow_told hFiled hRunning hStep (.qr ..)
      rw [QrCode.apply_snd_iff, Flow.isTerminal_qr] at hTold
      refine ⟨notices, hFeed, ?_⟩
      simp only [Announces, hRunning]
      exact ⟨hNext, hTold⟩

theorem feed_addRequest {info : RequestInfo} : (m.addRequest info false).2.feed = m.feed := by
  have hEntered := m.addRequest_entered info false
  generalize m.addRequest info false = entered at hEntered ⊢
  cases hEntered with
  | remembered | tracked => rfl

theorem feed_dropQr : (m.dropQr flow).feed = m.feed := by
  rw [dropQr]
  split <;> rfl

theorem feed_noteDevice {device : String} : (m.noteDevice flowHandle device).feed = m.feed := by
  rw [noteDevice]
  split <;> rfl

/-- The engine's lookups of requests only find such with the flow id that was asked for. -/
def FindsOwn (_ : Manager) : (call : Call) → call.Answer → Prop
  | .findRequest _ flow, some info => info.flow.text = flow
  | _, _ => True

theorem extends_came {sender : UserId} {info : RequestInfo} (hUnknown : m.known? flow = none)
    (hName : info.flow.text = flow) :
    Extends m (m.addRequest info true).2 (.incomingRequest sender flow) := by
  subst hName
  have hEntered := m.addRequest_entered info true
  generalize m.addRequest info true = entered at hEntered ⊢
  cases hEntered with
  | remembered => exact ⟨[], (List.append_nil _).symm, .inl ⟨rfl, rfl⟩⟩
  | tracked hLive =>
    refine ⟨[.newRequest (m.requests.add (m.requestOf info)).1], rfl,
      .inr ⟨_, m.requestOf info, rfl, hUnknown, ?_, hLive⟩⟩
    exact tracked?_eq_some_iff.mpr
      ⟨Std.TreeMap.getElem?_insert_self, m.requests.get?_add_self (m.requestOf info)⟩

def Command.Reports : Command → Prop
  | .requestUpdated .. | .sasUpdated .. | .qrUpdated .. => True
  | _ => False

theorem announces_nothing {command : Command} (h : ¬ command.Reports) :
    Announces m m [] command := by
  cases command with
  | requestUpdated | sasUpdated | qrUpdated => exact absurd trivial h
  | incomingRequest => exact .inl ⟨rfl, rfl⟩
  | incomingFlow => exact .inl rfl
  | _ => rfl

theorem Ends.extends {command : Command} {reply : Reply} (h : Ends FindsOwn m command reply next)
    (hReports : ¬ command.Reports) : Extends m next command := by
  have hNothing {other : Manager} (hFeed : other.feed = m.feed)
      (hAnnounces : Announces m other [] command) : Extends m other command :=
    ⟨[], by rw [hFeed, List.append_nil], hAnnounces⟩
  cases h with
  | requestUpdated | sasUpdated | qrUpdated => exact absurd trivial hReports
  | failed | known => exact hNothing rfl (announces_nothing hReports)
  | came hUnknown hName => exact extends_came hUnknown hName
  | sasCame => exact ⟨[.newFlow _], rfl, .inr ⟨_, rfl⟩⟩
  | qrStayed | qrCame => exact hNothing rfl (.inl rfl)
  | requested | requestedInRoom | restored => exact hNothing feed_addRequest rfl
  | qrRemoved => exact hNothing feed_dropQr rfl
  | scanned => exact hNothing feed_noteDevice rfl
  | _ => exact hNothing rfl rfl

theorem Command.extends (hFiled : m.Filed) (command : Command) :
    command.operation.Ensures FindsOwn (fun _ next => Extends m next command) m := by
  cases command with
  | requestUpdated flow update => exact extends_requestUpdated flow update
  | sasUpdated flow update => exact extends_sasUpdated hFiled flow update
  | qrUpdated flow update => exact extends_qrUpdated hFiled flow update
  | _ => exact ensures_operation fun _ _ hEnds => hEnds.extends id

/-! ## Runs -/

structure Recalls (m next : Manager) : Prop where
  requests : ∀ handle request, m.request? handle = some request →
    ∃ moved, next.request? handle = some moved ∧ moved.flow = request.flow
  known : ∀ flow, (m.known? flow).isSome → (next.known? flow).isSome

def introduces? (m : Manager) : Notice → Option String
  | .newRequest handle => (m.request? handle).map (·.flow.text)
  | _ => none

def introduced (m : Manager) : List String := m.feed.sent.filterMap m.introduces?

/-- All requests that were announced as new are known, and each of their flow ids was announced once. -/
structure Introduced (m : Manager) : Prop where
  known : ∀ handle, .newRequest handle ∈ m.feed.sent →
    ∃ request, m.request? handle = some request ∧ (m.known? request.flow.text).isSome
  once : m.introduced.Nodup

theorem isSome_known?_iff :
    (m.known? flow).isSome ↔ m.tracked[flow]?.isSome ∨ m.finished[flow]?.isSome := by
  rw [known?]
  cases m.tracked[flow]? <;> simp

theorem Recalls.refl (m : Manager) : Recalls m m :=
  ⟨fun _ request h => ⟨request, h, rfl⟩, fun _ h => h⟩

theorem Recalls.trans (h : Recalls m next) (hNext : Recalls next last) : Recalls m last := by
  refine ⟨?_, fun flow hKnown => hNext.known flow (h.known flow hKnown)⟩
  intro handle request hRequest
  obtain ⟨moved, hMoved, hFlow⟩ := h.requests handle request hRequest
  obtain ⟨final, hFinal, hSame⟩ := hNext.requests handle moved hMoved
  exact ⟨final, hFinal, hSame.trans hFlow⟩

variable {admits : Manager → RequestInfo → Prop}

theorem recalls_reported {update : RequestUpdate} {other : Handle Request} {found moved : Request}
    (hTracked : m.tracked? flow = some (handle, request))
    (hReported : request.apply update = (moved, changed)) (hFound : m.request? other = some found) :
    ∃ final, (m.requests.set handle moved changed).get? other = some final ∧
      final.flow = found.flow := by
  by_cases hHandle : handle = other
  · subst hHandle
    have hRequest := (tracked?_eq_some_iff.mp hTracked).2
    cases hRequest.symm.trans hFound
    exact ⟨moved, Registry.get?_set_self hFound, Request.flow_of_apply_eq hReported⟩
  · exact ⟨found, (Registry.get?_set_of_ne hHandle).trans hFound, rfl⟩

theorem Change.recalls (h : Change admits m next) : Recalls m next := by
  cases h with
  | remember info =>
    refine ⟨fun _ request hRequest => ⟨request, Registry.get?_add_of_some hRequest, rfl⟩, ?_⟩
    intro flow hKnown
    rw [isSome_known?_iff] at hKnown ⊢
    exact hKnown.imp_right Table.isSome_getElem?_insert
  | track info =>
    refine ⟨fun _ request hRequest => ⟨request, Registry.get?_add_of_some hRequest, rfl⟩, ?_⟩
    intro flow hKnown
    rw [isSome_known?_iff] at hKnown ⊢
    exact hKnown.imp_left Table.isSome_getElem?_insert
  | report hTracked hReported =>
    exact ⟨fun _ _ => recalls_reported hTracked hReported, fun _ h => h⟩
  | @finish ended handle _ _ _ hTracked hReported =>
    refine ⟨fun _ _ => recalls_reported hTracked hReported, ?_⟩
    intro flow hKnown
    rw [isSome_known?_iff] at hKnown ⊢
    by_cases hFlow : ended = flow
    · subst hFlow
      exact .inr (by simp)
    · refine hKnown.imp ?_ Table.isSome_getElem?_insert
      exact fun h => (Table.getElem?_erase_of_ne hFlow).symm ▸ h
  | enter | run | advance | release | dropQr | noteDevice | settle =>
    exact ⟨(Recalls.refl m).requests, fun _ h => h⟩

theorem Changes.recalls (h : Changes admits m next) : Recalls m next := by
  induction h with
  | refl => exact .refl m
  | tail _ hChange ih => exact ih.trans hChange.recalls

theorem Told.not_mem {α : Type} {moves : Prop} {isOver : Bool} {changed removed : Handle α → Notice}
    {handle : Handle α} {entry : Option (Handle α)} {notice : Notice}
    (h : Told moves isOver changed removed handle entry notices) (hChanged : notice ≠ changed handle)
    (hRemoved : notice ≠ removed handle) : notice ∉ notices := by
  cases h with
  | nothing => exact List.not_mem_nil
  | change => exact mt List.mem_singleton.mp hChanged
  | ending => simp [hChanged, hRemoved]

/-- A request is announced as new only by itself, and when its flow was not known before. -/
theorem Announces.cases {command : Command} (h : Announces m next notices command) :
    (∀ handle, .newRequest handle ∉ notices) ∨ ∃ handle request flow,
      notices = [.newRequest handle] ∧ m.known? flow = none ∧
        next.tracked? flow = some (handle, request) := by
  cases command with
  | incomingRequest sender flow =>
    obtain ⟨rfl, _⟩ | ⟨handle, request, rfl, hUnknown, hTracked, _⟩ := h
    · exact .inl fun _ => List.not_mem_nil
    · exact .inr ⟨handle, request, flow, rfl, hUnknown, hTracked⟩
  | incomingFlow sender flow =>
    obtain rfl | ⟨handle, rfl⟩ := h
    · exact .inl fun _ => List.not_mem_nil
    · exact .inl fun _ => by simp
  | requestUpdated flow update =>
    rw [Announces] at h
    split at h
    · exact .inl fun _ => h ▸ List.not_mem_nil
    · exact .inl fun _ => h.2.not_mem (by simp) (by simp)
  | sasUpdated flow update | qrUpdated flow update =>
    rw [Announces] at h
    split at h
    · exact .inl fun _ => h.2.not_mem (by simp) (by simp)
    · exact .inl fun _ => h ▸ List.not_mem_nil
  | _ =>
    obtain rfl : notices = [] := h
    exact .inl fun _ => List.not_mem_nil

namespace Introduced

theorem new (ownUser : UserId) (settings : Settings) : (Manager.new ownUser settings).Introduced :=
  ⟨fun _ h => absurd h List.not_mem_nil, .nil⟩

theorem isSome_known? (h : m.Introduced) (hFlow : flow ∈ m.introduced) : (m.known? flow).isSome := by
  obtain ⟨notice, hSent, hName⟩ := List.mem_filterMap.mp hFlow
  cases notice with
  | newRequest handle =>
    obtain ⟨request, hRequest, hKnown⟩ := h.known handle hSent
    rw [introduces?, hRequest] at hName
    exact Option.some.inj hName ▸ hKnown
  | _ => cases hName

theorem filterMap_introduces? (h : m.Introduced) (hRecalls : Recalls m next) :
    m.feed.sent.filterMap next.introduces? = m.introduced := by
  refine List.filterMap_congr ?_
  intro notice hSent
  cases notice with
  | newRequest handle =>
    obtain ⟨request, hRequest, _⟩ := h.known handle hSent
    obtain ⟨moved, hMoved, hFlow⟩ := hRecalls.requests handle request hRequest
    rw [introduces?, introduces?, hRequest, hMoved]
    exact congrArg (fun id : FlowId => some id.text) hFlow
  | _ => rfl

theorem known_after (h : m.Introduced) (hRecalls : Recalls m next)
    (hSent : .newRequest handle ∈ m.feed.sent) :
    ∃ request, next.request? handle = some request ∧ (next.known? request.flow.text).isSome := by
  obtain ⟨request, hRequest, hKnown⟩ := h.known handle hSent
  obtain ⟨moved, hMoved, hFlow⟩ := hRecalls.requests handle request hRequest
  exact ⟨moved, hMoved, hFlow.symm ▸ hRecalls.known _ hKnown⟩

theorem introduced_eq (h : m.Introduced) (hRecalls : Recalls m next)
    (hFeed : next.feed.sent = m.feed.sent ++ notices) :
    next.introduced = m.introduced ++ notices.filterMap next.introduces? := by
  rw [introduced, hFeed, List.filterMap_append, h.filterMap_introduces? hRecalls]

theorem extend_silent (h : m.Introduced) (hRecalls : Recalls m next)
    (hFeed : next.feed.sent = m.feed.sent ++ notices)
    (hSilent : ∀ handle, .newRequest handle ∉ notices) : next.Introduced := by
  have hNothing : notices.filterMap next.introduces? = [] := by
    refine List.filterMap_eq_nil_iff.mpr ?_
    intro notice hNotice
    cases notice with
    | newRequest handle => exact absurd hNotice (hSilent handle)
    | _ => rfl
  refine ⟨?_, ?_⟩
  · intro handle hSent
    rw [hFeed, List.mem_append] at hSent
    exact h.known_after hRecalls (hSent.resolve_right (hSilent handle))
  · rw [h.introduced_eq hRecalls hFeed, hNothing, List.append_nil]
    exact h.once

theorem extend_new (h : m.Introduced) (hRecalls : Recalls m next) (hFiled : next.Filed)
    (hFeed : next.feed.sent = m.feed.sent ++ [.newRequest handle]) (hUnknown : m.known? flow = none)
    (hTracked : next.tracked? flow = some (handle, request)) : next.Introduced := by
  obtain ⟨hKey, hRequest, rfl, _⟩ := hFiled.of_tracked? hTracked
  refine ⟨?_, ?_⟩
  · intro other hSent
    rw [hFeed, List.mem_append, List.mem_singleton] at hSent
    obtain hSent | hSame := hSent
    · exact h.known_after hRecalls hSent
    · cases hSame
      exact ⟨request, hRequest, isSome_known?_iff.mpr (.inl (Option.isSome_of_eq_some hKey))⟩
  · have hNew : [Notice.newRequest handle].filterMap next.introduces? = [request.flow.text] := by
      have hName : next.introduces? (.newRequest handle) = some request.flow.text :=
        congrArg (Option.map fun found : Request => found.flow.text) hRequest
      rw [List.filterMap_cons_some hName, List.filterMap_nil]
    -- What was announced before is known, and this flow id was not.
    have hFresh : request.flow.text ∉ m.introduced := by
      intro hFlow
      have hKnown := h.isSome_known? hFlow
      rw [hUnknown] at hKnown
      cases hKnown
    rw [h.introduced_eq hRecalls hFeed, hNew, ← List.concat_eq_append]
    exact h.once.concat hFresh

theorem extend {command : Command} (h : m.Introduced) (hRecalls : Recalls m next)
    (hFiled : next.Filed) (hExtends : Extends m next command) : next.Introduced := by
  obtain ⟨notices, hFeed, hAnnounces⟩ := hExtends
  obtain hSilent | ⟨handle, request, flow, rfl, hUnknown, hTracked⟩ := hAnnounces.cases
  · exact h.extend_silent hRecalls hFeed hSilent
  · exact h.extend_new hRecalls hFiled hFeed hUnknown hTracked

section Runs

variable {σ : Type} {answer : Collaborators σ}

theorem operation {command : Command} {world : σ} (h : m.Introduced) (hFiled : m.Filed)
    (hFinds : command.operation.Meets FindsOwn answer m world) :
    (command.operation.run answer m world).state.Introduced := by
  have hChanges := (Does.operation admitted_all command).changes (m := m) answer world
  exact h.extend hChanges.recalls (hFiled.changes hChanges) ((command.extends hFiled).of_run hFinds)

theorem perform {world : σ} {commands : List Command} (h : m.Introduced) (hFiled : m.Filed)
    (hFinds : (perform commands).Meets FindsOwn answer m world) :
    ((perform commands).run answer m world).state.Introduced := by
  induction commands generalizing m world with
  | nil => exact h
  | cons command rest ih =>
    rw [Manager.perform, meets_bind] at hFinds
    rw [Manager.perform, run_bind]
    have hNext := hFiled.changes ((Does.operation admitted_all command).changes answer world)
    exact ih (h.operation hFiled hFinds.1) hNext hFinds.2

end Runs

end Introduced

/-- If the engine's lookups find what they are asked for, each command of a run announces just what it
does, no flow id is announced as new twice, and none that is known is ever forgotten. -/
theorem feed_is_faithful {σ : Type} (ownUser : UserId) (settings : Settings)
    (answer : Collaborators σ) (world : σ) (before : List Command) (command : Command)
    (hFinds : (perform (before ++ [command])).Meets FindsOwn answer (new ownUser settings) world) :
    let now := (perform before).run answer (new ownUser settings) world
    let next := command.operation.run answer now.state now.world
    Extends now.state next.state command ∧ next.state.Introduced ∧
      ∀ after flow, (now.state.known? flow).isSome →
        (((perform after).run answer now.state now.world).state.known? flow).isSome := by
  intro now next
  rw [perform_append, meets_bind] at hFinds
  obtain ⟨hBefore, hLast⟩ := hFinds
  have hFiled : now.state.Filed := (filed_new ownUser settings).perform answer world before
  have hCommand : command.operation.Meets FindsOwn answer now.state now.world :=
    (meets_bind.mp hLast).1
  have hIntroduced : now.state.Introduced :=
    (Introduced.new ownUser settings).perform (filed_new ownUser settings) hBefore
  refine ⟨(command.extends hFiled).of_run hCommand, hIntroduced.operation hFiled hCommand, ?_⟩
  intro after flow
  exact ((Does.perform admitted_all after).changes answer now.world).recalls.known flow

open Sample in
theorem end_is_announced :
    let now := (perform requested).run obliging (new .alice .default) ()
    let next := (Command.requestUpdated "flow" .done).operation.run obliging now.state now.world
    (perform (requested ++ [.requestUpdated "flow" .done])).Meets FindsOwn obliging
        (new .alice .default) () ∧
      next.state.feed.sent = [.newRequest ⟨0⟩, .requestChanged ⟨0⟩, .requestRemoved ⟨0⟩] ∧
      Extends now.state next.state (.requestUpdated "flow" .done) ∧ next.state.Introduced := by
  intro now next
  have hFinds : (perform (requested ++ [.requestUpdated "flow" .done])).Meets FindsOwn obliging
      (new .alice .default) () := by
    refine meets_of_forall fun _ call _ => ?_
    cases call <;> trivial
  obtain ⟨hExtends, hIntroduced, _⟩ := feed_is_faithful .alice .default obliging () requested
    (.requestUpdated "flow" .done) hFinds
  refine ⟨hFinds, ?_, hExtends, hIntroduced⟩
  decide +kernel

end Manager

end DeviceTrust
