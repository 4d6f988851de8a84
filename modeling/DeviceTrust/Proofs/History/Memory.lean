import DeviceTrust.Proofs.History.Alone
import DeviceTrust.Proofs.History.SingleFlight
/-! # Outcomes are remembered

Calls that come one after another, each with an answer that the transport would give it. The first
answer with events settles a flow for good: up to it every call for the flow asks, and none does later.
-/

namespace DeviceTrust.Resolution

structure Inquiry where
  flow : EventId
  room : RoomId
  answer : Except TransportError (List HistoryEvent)

namespace Inquiry

variable {past early late : List Inquiry} {first : Inquiry} {flow : EventId}
  {events : List HistoryEvent}

def AllFail (flow : EventId) (past : List Inquiry) : Prop :=
  ∀ inquiry ∈ past, inquiry.flow = flow → ∃ error, inquiry.answer = .error error

/-- The events with which the transport first answered for a flow. -/
def firstAnswer? (flow : EventId) (past : List Inquiry) : Option (List HistoryEvent) :=
  (past.filter (·.flow = flow)).findSome? (·.answer.toOption)

theorem firstAnswer?_eq_none (h : AllFail flow past) : firstAnswer? flow past = none := by
  rw [firstAnswer?, List.findSome?_eq_none_iff]
  intro inquiry hMem
  rw [List.mem_filter, decide_eq_true_eq] at hMem
  obtain ⟨error, hError⟩ := h inquiry hMem.1 hMem.2
  rw [hError]
  rfl

theorem firstAnswer?_append (flow : EventId) (early late : List Inquiry) :
    firstAnswer? flow (early ++ late) = (firstAnswer? flow early).or (firstAnswer? flow late) := by
  rw [firstAnswer?, List.filter_append, List.findSome?_append]
  rfl

theorem firstAnswer?_singleton_self (inquiry : Inquiry) :
    firstAnswer? inquiry.flow [inquiry] = inquiry.answer.toOption := by
  simp [firstAnswer?]

theorem firstAnswer?_singleton_of_ne (h : first.flow ≠ flow) : firstAnswer? flow [first] = none := by
  simp [firstAnswer?, h]

theorem firstAnswer?_of_first (hFlow : first.flow = flow) (hAnswer : first.answer = .ok events)
    (hEarly : AllFail flow early) : firstAnswer? flow (early ++ first :: late) = some events := by
  have hFirst : firstAnswer? flow [first] = some events := by
    rw [← hFlow, firstAnswer?_singleton_self, hAnswer]
    rfl
  calc
    firstAnswer? flow (early ++ ([first] ++ late)) =
        (firstAnswer? flow early).or ((firstAnswer? flow [first]).or (firstAnswer? flow late)) := by
      rw [firstAnswer?_append, firstAnswer?_append]
    _ = some events := by
      rw [firstAnswer?_eq_none hEarly, hFirst]
      rfl

end Inquiry

namespace Machine

open Inquiry

def inquire (m : Machine) (inquiry : Inquiry) : Machine :=
  m.resolve inquiry.answer inquiry.flow inquiry.room

def inquireAll (m : Machine) (inquiries : List Inquiry) : Machine := inquiries.foldl inquire m

structure Remembers (m : Machine) (ownUser : UserId) (sorts : Bool) (past : List Inquiry) : Prop where
  judge : ∀ events, m.archive.judge events =
    .ofEvents ownUser (if sorts then HistoryEvent.sort events else events)
  outcome : ∀ flow, m.archive.outcome? flow = (firstAnswer? flow past).map m.archive.judge
  idle : ∀ flow : EventId, m.inflight[flow]? = none
  free : m.attemptsLocked = false
  count : m.callers.size = past.length

variable {m : Machine} {ownUser : UserId} {sorts : Bool} {past : List Inquiry} {inquiry : Inquiry}
  {events : List HistoryEvent}

theorem remembers_new (ownUser : UserId) (sorts : Bool) :
    (new (.empty ownUser sorts)).Remembers ownUser sorts [] where
  judge _ := rfl
  outcome _ := by simp [new, Archive.empty, Archive.outcome?, firstAnswer?]
  idle _ := by simp [new]
  free := by simp [new, attemptsLocked]
  count := rfl

/-! ## One inquiry -/

theorem Remembers.inquire_of_answered (h : m.Remembers ownUser sorts past)
    (hFirst : firstAnswer? inquiry.flow past = some events) :
    m.inquire inquiry =
      m.joined inquiry.flow inquiry.room (.finished (.ok (m.archive.judge events))) := by
  refine resolve_of_recorded inquiry.room inquiry.answer h.free ?_
  rw [h.outcome, hFirst, Option.map_some]

theorem Remembers.inquire_of_unanswered (h : m.Remembers ownUser sorts past)
    (hFirst : firstAnswer? inquiry.flow past = none) :
    m.inquire inquiry =
      (m.settled inquiry.flow inquiry.room inquiry.answer).joined inquiry.flow inquiry.room
        (.finished (m.archive.settle inquiry.flow inquiry.answer).1) := by
  refine resolve_of_fresh inquiry.room inquiry.answer h.free ?_ (h.idle inquiry.flow)
  rw [h.outcome, hFirst, Option.map_none]

theorem idle_settled (hIdle : ∀ flow : EventId, m.inflight[flow]? = none) (flow : EventId)
    (room : RoomId) (answer : Except TransportError (List HistoryEvent)) (other : EventId) :
    (m.settled flow room answer).inflight[other]? = none := by
  have hErased : ((m.inflight.insert flow m.attempts).erase flow)[other]? = none := by
    by_cases hFlow : flow = other
    · subst hFlow
      exact Std.TreeMap.getElem?_erase_self
    · rw [Table.getElem?_erase_of_ne hFlow, Table.getElem?_insert_of_ne hFlow, hIdle]
  cases answer <;> exact hErased

theorem judge_settled (flow : EventId) (room : RoomId)
    (answer : Except TransportError (List HistoryEvent)) :
    (m.settled flow room answer).archive.judge = m.archive.judge := by
  cases answer <;> rfl

theorem outcome?_settled_self {flow : EventId} (room : RoomId)
    (answer : Except TransportError (List HistoryEvent)) (h : m.archive.outcome? flow = none) :
    (m.settled flow room answer).archive.outcome? flow = answer.toOption.map m.archive.judge := by
  cases answer with
  | ok events => exact outcome?_record_self m.archive flow (m.archive.judge events)
  | error error => exact h

theorem outcome?_settled_of_ne {flow other : EventId} (room : RoomId)
    (answer : Except TransportError (List HistoryEvent)) (h : flow ≠ other) :
    (m.settled flow room answer).archive.outcome? other = m.archive.outcome? other := by
  cases answer with
  | ok events => exact outcome?_record_of_ne h
  | error error => rfl

theorem Remembers.inquire (h : m.Remembers ownUser sorts past) (inquiry : Inquiry) :
    (m.inquire inquiry).Remembers ownUser sorts (past ++ [inquiry]) := by
  -- What the others asked is remembered as before; it is the flow of the inquiry that matters.
  have hOthers (flow : EventId) (hFlow : inquiry.flow ≠ flow) :
      firstAnswer? flow (past ++ [inquiry]) = firstAnswer? flow past := by
    rw [firstAnswer?_append, firstAnswer?_singleton_of_ne hFlow, Option.or_none]
  cases hFirst : firstAnswer? inquiry.flow past with
  | some events =>
    have hSame (flow : EventId) :
        firstAnswer? flow (past ++ [inquiry]) = firstAnswer? flow past := by
      by_cases hFlow : inquiry.flow = flow
      · rw [firstAnswer?_append, ← hFlow, hFirst, Option.some_or]
      · exact hOthers flow hFlow
    rw [h.inquire_of_answered hFirst]
    refine ⟨h.judge, fun flow => ?_, h.idle, attemptsLocked_joined h.free rfl, ?_⟩
    · rw [hSame]
      exact h.outcome flow
    · simp [joined, h.count]
  | none =>
    have hNone : m.archive.outcome? inquiry.flow = none := by rw [h.outcome, hFirst, Option.map_none]
    rw [h.inquire_of_unanswered hFirst]
    have hFree : (m.settled inquiry.flow inquiry.room inquiry.answer).attemptsLocked = false := by
      rw [attemptsLocked, callers_settled]
      exact h.free
    refine ⟨?_, fun flow => ?_, idle_settled h.idle _ _ _, attemptsLocked_joined hFree rfl, ?_⟩
    · exact fun events => (congrFun (judge_settled _ _ _) events).trans (h.judge events)
    · change (m.settled inquiry.flow inquiry.room inquiry.answer).archive.outcome? flow =
        (firstAnswer? flow (past ++ [inquiry])).map
          (m.settled inquiry.flow inquiry.room inquiry.answer).archive.judge
      rw [judge_settled]
      by_cases hFlow : inquiry.flow = flow
      · subst hFlow
        rw [firstAnswer?_append, hFirst, Option.none_or, firstAnswer?_singleton_self]
        exact outcome?_settled_self _ _ hNone
      · rw [hOthers flow hFlow]
        exact (outcome?_settled_of_ne _ _ hFlow).trans (h.outcome flow)
    · simp [joined, callers_settled, h.count]

theorem Remembers.inquireAll (h : m.Remembers ownUser sorts past) (more : List Inquiry) :
    (m.inquireAll more).Remembers ownUser sorts (past ++ more) := by
  induction more generalizing m past with
  | nil => rwa [List.append_nil]
  | cons inquiry rest ih =>
    rw [List.append_cons]
    exact ih (h.inquire inquiry)

/-! ## Every inquiry -/

theorem Remembers.answered (h : m.Remembers ownUser sorts past)
    (hFirst : firstAnswer? inquiry.flow past = some events) :
    (m.inquire inquiry).queries = m.queries ∧
      (m.inquire inquiry).result? past.length =
        some (.ok (.ofEvents ownUser (if sorts then HistoryEvent.sort events else events))) := by
  rw [h.inquire_of_answered hFirst, result?_joined_finished _ h.count, h.judge]
  exact ⟨rfl, rfl⟩

theorem Remembers.unanswered (h : m.Remembers ownUser sorts past)
    (hFirst : firstAnswer? inquiry.flow past = none) :
    (m.inquire inquiry).queries = m.queries ++ [(inquiry.room, inquiry.flow)] ∧
      (m.inquire inquiry).result? past.length = some (match inquiry.answer with
        | .ok events =>
          .ok (.ofEvents ownUser (if sorts then HistoryEvent.sort events else events))
        | .error error => .error (.transport error)) := by
  have hSize : (m.settled inquiry.flow inquiry.room inquiry.answer).callers.size = past.length := by
    rw [callers_settled, h.count]
  rw [h.inquire_of_unanswered hFirst, result?_joined_finished _ hSize]
  refine ⟨queries_settled m _ _ _, ?_⟩
  cases inquiry.answer with
  | ok events => rw [Archive.settle, h.judge]
  | error error => rfl

/-- However calls follow one another, for whatever flows and rooms, and whatever the transport would
answer each time: a call asks exactly once, and returns what the answer says, as long as all earlier
answers for its flow were failures, and from the first answer with events on every call for the flow
returns what these say without asking. Calls for other flows do not matter. -/
theorem first_answer_is_remembered (ownUser : UserId) (sorts : Bool) (past : List Inquiry)
    (inquiry : Inquiry) :
    let start := new (.empty ownUser sorts)
    let before := start.inquireAll past
    let after := before.inquire inquiry
    let read := fun events =>
      Outcome.ofEvents ownUser (if sorts then HistoryEvent.sort events else events)
    (AllFail inquiry.flow past →
      after.queries = before.queries ++ [(inquiry.room, inquiry.flow)] ∧
        after.result? past.length = some (match inquiry.answer with
          | .ok events => .ok (read events)
          | .error error => .error (.transport error))) ∧
      (∀ early first late events, past = early ++ first :: late → AllFail inquiry.flow early →
        first.flow = inquiry.flow → first.answer = .ok events →
          after.queries = before.queries ∧ after.result? past.length = some (.ok (read events))) ∧
      ∀ others : List Inquiry,
        others.filter (·.flow = inquiry.flow) = past.filter (·.flow = inquiry.flow) →
          let elsewhere := start.inquireAll others
          (elsewhere.inquire inquiry).result? others.length = after.result? past.length ∧
            ∃ sent, after.queries = before.queries ++ sent ∧
              (elsewhere.inquire inquiry).queries = elsewhere.queries ++ sent := by
  intro start before after read
  have hRun (run : List Inquiry) : (start.inquireAll run).Remembers ownUser sorts run :=
    (remembers_new ownUser sorts).inquireAll run
  refine ⟨fun hFail => ?_, ?_, fun others hSame => ?_⟩
  · exact (hRun past).unanswered (firstAnswer?_eq_none hFail)
  · rintro early first late events rfl hFail hFlow hAnswer
    exact (hRun _).answered (firstAnswer?_of_first hFlow hAnswer hFail)
  · have hFirst : firstAnswer? inquiry.flow others = firstAnswer? inquiry.flow past := by
      rw [firstAnswer?, firstAnswer?, hSame]
    cases hPast : firstAnswer? inquiry.flow past with
    | none =>
      obtain ⟨hQueries, hResult⟩ := (hRun past).unanswered hPast
      obtain ⟨hElsewhere, hOther⟩ := (hRun others).unanswered (hFirst.trans hPast)
      exact ⟨hOther.trans hResult.symm, _, hQueries, hElsewhere⟩
    | some events =>
      obtain ⟨hQueries, hResult⟩ := (hRun past).answered hPast
      obtain ⟨hElsewhere, hOther⟩ := (hRun others).answered (hFirst.trans hPast)
      refine ⟨hOther.trans hResult.symm, [], ?_, ?_⟩
      · rw [List.append_nil]
        exact hQueries
      · rw [List.append_nil]
        exact hElsewhere

namespace Sample

def greeting : EventId := ⟨"$greeting", by decide⟩

/-- By its timestamp it comes before `done`. -/
def cancelled : HistoryEvent :=
  ⟨"m.key.verification.cancel", .alice, 0, .object [("code", .text "m.user")]⟩

def failed : Inquiry := ⟨request, .lobby, .error ⟨"timeout"⟩⟩

def elsewhere : Inquiry := ⟨greeting, .lobby, .ok []⟩

def answered : Inquiry := ⟨request, .attic, .ok [done, cancelled]⟩

/-- Here the transport would answer otherwise than before. -/
def again : Inquiry := ⟨request, .lobby, .ok [done]⟩

end Sample

open Sample in
theorem first_answer_stands :
    let start := new (.empty .alice true)
    let unanswered := start.inquireAll [failed, elsewhere]
    let m := start.inquireAll [failed, elsewhere, answered]
    (unanswered.inquire answered).queries = unanswered.queries ++ [(.attic, request)] ∧
      (m.inquire again).queries = m.queries ∧
      (m.inquire again).result? 3 = some (.ok .cancelledByUs) ∧
      ((start.inquireAll [failed, answered]).inquire again).result? 2 =
        (m.inquire again).result? 3 := by
  have hEarly : AllFail request [failed, elsewhere] := by
    simp [AllFail, failed, elsewhere, request, greeting]
  have hSorted : HistoryEvent.sort [done, cancelled] = [cancelled, done] := by
    simp [HistoryEvent.sort, List.mergeSort, done, cancelled]
  have hRead : Outcome.ofEvents .alice (HistoryEvent.sort [done, cancelled]) = .cancelledByUs := by
    rw [hSorted]
    decide
  have hSame : [failed, answered].filter (·.flow = request) =
      [failed, elsewhere, answered].filter (·.flow = request) := by
    simp [failed, elsewhere, answered, request, greeting]
  obtain ⟨hAsks, -, -⟩ := first_answer_is_remembered .alice true [failed, elsewhere] answered
  obtain ⟨-, hStands, hOthers⟩ :=
    first_answer_is_remembered .alice true [failed, elsewhere, answered] again
  obtain ⟨hQueries, hResult⟩ :=
    hStands [failed, elsewhere] answered [] [done, cancelled] rfl hEarly rfl rfl
  refine ⟨(hAsks hEarly).1, hQueries, hResult.trans ?_, (hOthers [failed, answered] hSame).1⟩
  exact congrArg (fun outcome => some (Except.ok outcome)) hRead

end Machine

end DeviceTrust.Resolution
