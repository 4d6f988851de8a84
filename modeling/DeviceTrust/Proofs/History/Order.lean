import DeviceTrust.Proofs.History.Composition
import DeviceTrust.Proofs.History.Memory
/-! # The order of a history

A resolver that sorts does not depend on the order in which the transport gives the events of a flow,
except among events of one time. What it resolves a flow to is what the end says that came first, by
time and then in the order of the transport. Sorting a history that is in order changes nothing.
-/

namespace DeviceTrust

namespace HistoryEvent

variable {xs ys events earlier later : List HistoryEvent} {event other : HistoryEvent} {time : Nat}

/-! ## Sorting by time -/

theorem pairwise_sort (events : List HistoryEvent) :
    (sort events).Pairwise fun a b => a.timestamp ≤ b.timestamp := by
  have hSorted : (sort events).Pairwise fun a b => decide (a.timestamp ≤ b.timestamp) = true :=
    List.pairwise_mergeSort (by simp; omega) (by simp; omega) events
  simpa using hSorted

theorem sort_perm (events : List HistoryEvent) : (sort events).Perm events :=
  List.mergeSort_perm events _

theorem sort_of_pairwise (h : events.Pairwise fun a b => a.timestamp ≤ b.timestamp) :
    sort events = events :=
  List.mergeSort_of_pairwise (by simpa using h)

theorem filter_sort (time : Nat) (events : List HistoryEvent) :
    (sort events).filter (·.timestamp = time) = events.filter (·.timestamp = time) := by
  have hTied : (events.filter (·.timestamp = time)).Pairwise fun a b => a.timestamp ≤ b.timestamp := by
    refine List.pairwise_of_forall_mem_list ?_
    simp +contextual
  have hSublist : (events.filter (·.timestamp = time)).Sublist (sort events) :=
    List.sublist_mergeSort (by simp; omega) (by simp; omega) (by simpa using hTied)
      List.filter_sublist
  have hFiltered := hSublist.filter (·.timestamp = time)
  rw [List.filter_filter] at hFiltered
  refine (List.Sublist.eq_of_length ?_ ((sort_perm events).filter _).length_eq.symm).symm
  simpa using hFiltered

/-- Two lists of the same events, with the same order among events of one time. -/
structure Rearranged (xs ys : List HistoryEvent) : Prop where
  perm : xs.Perm ys
  ties : ∀ time, xs.filter (·.timestamp = time) = ys.filter (·.timestamp = time)

theorem rearranged_of_pairwise_ne (hPerm : xs.Perm ys)
    (h : xs.Pairwise fun a b => a.timestamp ≠ b.timestamp) : Rearranged xs ys := by
  refine ⟨hPerm, fun time => ?_⟩
  have hTied := hPerm.filter (·.timestamp = time)
  have hDistinct := h.filter (·.timestamp = time)
  have hTime : ∀ event ∈ xs.filter (·.timestamp = time), event.timestamp = time := by simp
  generalize xs.filter (·.timestamp = time) = tied at hTied hDistinct hTime
  match tied with
  | [] => exact hTied.nil_eq
  | [event] => exact hTied.singleton_eq
  | first :: second :: rest =>
    -- Both are of the same time, which no two events are.
    simp only [List.forall_mem_cons] at hTime
    rw [List.pairwise_cons] at hDistinct
    exact absurd (hTime.1.trans hTime.2.1.symm) (hDistinct.1 second List.mem_cons_self)

theorem Rearranged.eq_of_pairwise (h : Rearranged xs ys)
    (hxs : xs.Pairwise fun a b => a.timestamp ≤ b.timestamp)
    (hys : ys.Pairwise fun a b => a.timestamp ≤ b.timestamp) : xs = ys := by
  induction xs generalizing ys with
  | nil => exact h.perm.nil_eq
  | cons x xs ih =>
    cases ys with
    | nil => exact absurd h.perm.symm.nil_eq nofun
    | cons y ys =>
      obtain ⟨hx, hxRest⟩ := List.pairwise_cons.mp hxs
      obtain ⟨hy, hyRest⟩ := List.pairwise_cons.mp hys
      have hxy : x.timestamp ≤ y.timestamp := by
        rcases List.mem_cons.mp (h.perm.symm.subset List.mem_cons_self) with rfl | hMem
        · exact Nat.le_refl _
        · exact hx y hMem
      have hyx : y.timestamp ≤ x.timestamp := by
        rcases List.mem_cons.mp (h.perm.subset List.mem_cons_self) with rfl | hMem
        · exact Nat.le_refl _
        · exact hy x hMem
      have hTime : y.timestamp = x.timestamp := Nat.le_antisymm hyx hxy
      -- Both come first among the events of the least time.
      have hHead : x = y := by
        have hTies := h.ties x.timestamp
        simp only [List.filter_cons, hTime, decide_true, if_true] at hTies
        exact (List.cons.inj hTies).1
      subst hHead
      rw [ih ⟨h.perm.cons_inv, fun time => ?_⟩ hxRest hyRest]
      have hTies := h.ties time
      rw [List.filter_cons, List.filter_cons] at hTies
      split at hTies
      · exact (List.cons.inj hTies).2
      · exact hTies

theorem Rearranged.sort_eq (h : Rearranged xs ys) : sort xs = sort ys := by
  refine Rearranged.eq_of_pairwise ⟨?_, fun time => ?_⟩ (pairwise_sort xs) (pairwise_sort ys)
  · exact (sort_perm xs).trans (h.perm.trans (sort_perm ys).symm)
  · rw [filter_sort, filter_sort, h.ties]

/-! ## The end that came first -/

/-- Of all ends in a list, the event is the first by its time, and of those of its time it comes first
in the list. -/
structure EndsFirst (events : List HistoryEvent) (event : HistoryEvent) : Prop where
  ends : event.Ends
  split : ∃ earlier later, events = earlier ++ event :: later ∧
    (∀ other ∈ earlier, other.Ends → event.timestamp < other.timestamp) ∧
    ∀ other ∈ later, other.Ends → event.timestamp ≤ other.timestamp

theorem EndsFirst.le (h : EndsFirst events event) (hMem : other ∈ events) (hOther : other.Ends) :
    event.timestamp ≤ other.timestamp := by
  obtain ⟨earlier, later, rfl, hEarlier, hLater⟩ := h.split
  rcases List.mem_append.mp hMem with hMem | hMem
  · exact Nat.le_of_lt (hEarlier other hMem hOther)
  · rcases List.mem_cons.mp hMem with rfl | hMem
    · exact Nat.le_refl _
    · exact hLater other hMem hOther

theorem EndsFirst.find?_eq (h : EndsFirst events event) :
    events.find? (fun other => other.Ends ∧ other.timestamp = event.timestamp) = some event := by
  obtain ⟨earlier, later, hSplit, hEarlier, -⟩ := h.split
  rw [List.find?_eq_some_iff_append]
  refine ⟨by simpa using h.ends, earlier, later, hSplit, fun other hMem => ?_⟩
  rw [Bool.not_eq_true', decide_eq_false_iff_not]
  rintro ⟨hOther, hTime⟩
  have hLess := hEarlier other hMem hOther
  omega

theorem endsFirst_of_find?_eq (hEnds : event.Ends)
    (hLeast : ∀ other ∈ events, other.Ends → event.timestamp ≤ other.timestamp)
    (hFind : events.find? (fun other => other.Ends ∧ other.timestamp = event.timestamp) = some event) :
    EndsFirst events event := by
  obtain ⟨-, earlier, later, rfl, hEarlier⟩ := List.find?_eq_some_iff_append.mp hFind
  refine ⟨hEnds, earlier, later, rfl, ?_, ?_⟩
  · intro other hMem hOther
    have hLe := hLeast other (List.mem_append_left _ hMem) hOther
    have hNot := hEarlier other hMem
    rw [Bool.not_eq_true', decide_eq_false_iff_not] at hNot
    have hNe : other.timestamp ≠ event.timestamp := fun hTime => hNot ⟨hOther, hTime⟩
    omega
  · intro other hMem
    exact hLeast other (List.mem_append_right _ (List.mem_cons_of_mem event hMem))

theorem EndsFirst.mem (h : EndsFirst events event) : event ∈ events :=
  List.mem_of_find?_eq_some h.find?_eq

theorem EndsFirst.unique (h : EndsFirst events event) (hOther : EndsFirst events other) :
    event = other := by
  have hTime : event.timestamp = other.timestamp :=
    Nat.le_antisymm (h.le hOther.mem hOther.ends) (hOther.le h.mem h.ends)
  have hFind := h.find?_eq
  rw [hTime] at hFind
  exact Option.some.inj (hFind.symm.trans hOther.find?_eq)

theorem find?_sort (time : Nat) (events : List HistoryEvent) :
    (sort events).find? (fun event => event.Ends ∧ event.timestamp = time) =
      events.find? (fun event => event.Ends ∧ event.timestamp = time) := by
  have hFilter (list : List HistoryEvent) :
      list.find? (fun event => event.Ends ∧ event.timestamp = time) =
        ((list.filter (·.timestamp = time)).filter (·.Ends)).head? := by
    rw [List.filter_filter, List.head?_filter]
    simp only [Bool.decide_and]
  rw [hFilter, hFilter, filter_sort]

theorem endsFirst_of_sort_eq (h : sort events = earlier ++ event :: later)
    (hOpen : ∀ before ∈ earlier, ¬ before.Ends) (hEnds : event.Ends) : EndsFirst events event := by
  have hSorted := pairwise_sort events
  rw [h, List.pairwise_append, List.pairwise_cons] at hSorted
  refine endsFirst_of_find?_eq hEnds ?_ ?_
  · intro other hMem hOther
    rw [← (sort_perm events).mem_iff, h, List.mem_append, List.mem_cons] at hMem
    rcases hMem with hMem | rfl | hMem
    · exact absurd hOther (hOpen other hMem)
    · exact Nat.le_refl _
    · exact hSorted.2.1.1 other hMem
  · rw [← find?_sort, h, List.find?_eq_some_iff_append]
    refine ⟨by simpa using hEnds, earlier, later, rfl, fun before hMem => ?_⟩
    simp [hOpen before hMem]

theorem exists_endsFirst (h : ∃ event ∈ events, event.Ends) :
    ∃ event, EndsFirst events event ∧
      ∀ own, Outcome.ofEvents own (sort events) = .ofEvents own [event] := by
  have hSorted : ∃ event ∈ sort events, event.Ends := by
    simpa only [(sort_perm events).mem_iff] using h
  obtain ⟨earlier, event, later, hSplit, hOpen, hEnds⟩ := exists_first_end hSorted
  refine ⟨event, endsFirst_of_sort_eq hSplit hOpen hEnds, fun own => ?_⟩
  rw [hSplit]
  exact Outcome.fold_of_first_end hOpen hEnds

theorem EndsFirst.ofEvents_sort (h : EndsFirst events event) (own : UserId) :
    Outcome.ofEvents own (sort events) = .ofEvents own [event] := by
  obtain ⟨first, hFirst, hOutcome⟩ := exists_endsFirst ⟨event, h.mem, h.ends⟩
  rw [h.unique hFirst, hOutcome]

end HistoryEvent

namespace Resolution.Machine

open HistoryEvent Inquiry

/-- What a resolver, after some inquiries, resolves a flow to when it gets those events. -/
def resolved (ownUser : UserId) (sorts : Bool) (past : List Inquiry) (flow : EventId) (room : RoomId)
    (events : List HistoryEvent) : Option (Except ResolutionError Outcome) :=
  (((new (.empty ownUser sorts)).inquireAll past).inquire ⟨flow, room, .ok events⟩).result? past.length

variable {past : List Inquiry} {flow : EventId}

theorem resolved_eq (h : AllFail flow past) (ownUser : UserId) (sorts : Bool) (room : RoomId)
    (events : List HistoryEvent) : resolved ownUser sorts past flow room events =
      some (.ok (.ofEvents ownUser (if sorts then sort events else events))) :=
  (((remembers_new ownUser sorts).inquireAll past).unanswered (firstAnswer?_eq_none h)).2

/-- A resolver that sorts resolves a flow to the same from any order of its events, if those of one time
keep theirs, and a flow that came to its end to what the end says that came first. Where the events come
in the order of time, sorting changes nothing. -/
theorem time_decides_order (ownUser : UserId) (past : List Inquiry) (flow : EventId) (room : RoomId)
    (hFail : AllFail flow past) :
    let sorted := resolved ownUser true past flow room
    (∀ xs ys, Rearranged xs ys → sorted xs = sorted ys) ∧
    (∀ xs ys : List HistoryEvent, xs.Perm ys → xs.Pairwise (fun a b => a.timestamp ≠ b.timestamp) →
      sorted xs = sorted ys) ∧
    (∀ events, ∃ outcome, sorted events = some (.ok outcome) ∧
      (outcome = .started ∨ outcome = .ready ↔ ∀ event ∈ events, ¬ event.Ends) ∧
      (∀ event, EndsFirst events event → outcome = .ofEvents ownUser [event]) ∧
      ((∃ event ∈ events, event.Ends) → ∃ event, EndsFirst events event)) ∧
    ∀ events, events.Pairwise (fun a b => a.timestamp ≤ b.timestamp) →
      sorted events = resolved ownUser false past flow room events := by
  intro sorted
  have hSorted (events : List HistoryEvent) :
      sorted events = some (.ok (.ofEvents ownUser (sort events))) :=
    resolved_eq hFail ownUser true room events
  refine ⟨?_, ?_, ?_, ?_⟩
  · intro xs ys h
    rw [hSorted, hSorted, h.sort_eq]
  · intro xs ys hPerm hDistinct
    rw [hSorted, hSorted, (rearranged_of_pairwise_ne hPerm hDistinct).sort_eq]
  · intro events
    refine ⟨_, hSorted events, ?_, fun event h => h.ofEvents_sort ownUser, fun h => ?_⟩
    · rw [Outcome.open_iff]
      simp only [(sort_perm events).mem_iff]
    · obtain ⟨event, hFirst, -⟩ := exists_endsFirst h
      exact ⟨event, hFirst⟩
  · intro events h
    rw [hSorted, sort_of_pairwise h]
    exact (resolved_eq hFail ownUser false room events).symm

open Sample in
theorem earlier_cancellation_decides :
    resolved .alice true [failed] request .lobby [done, cancelled] =
        resolved .alice true [failed] request .lobby [cancelled, done] ∧
      resolved .alice true [failed] request .lobby [cancelled, done] =
        resolved .alice false [failed] request .lobby [cancelled, done] ∧
      resolved .alice true [failed] request .lobby [done, cancelled] = some (.ok .cancelledByUs) := by
  have hFail : AllFail request [failed] := by simp [AllFail, failed]
  have hOrder : ([cancelled, done] : List HistoryEvent).Pairwise
      fun a b => a.timestamp ≤ b.timestamp := by decide
  have hDistinct : ([done, cancelled] : List HistoryEvent).Pairwise
      fun a b => a.timestamp ≠ b.timestamp := by decide
  have hFirst : EndsFirst [done, cancelled] cancelled :=
    ⟨by decide, [done], [], rfl, by decide, by simp⟩
  obtain ⟨-, hAny, hDecides, hAgree⟩ := time_decides_order .alice [failed] request .lobby hFail
  refine ⟨hAny _ _ (.swap cancelled done []) hDistinct, hAgree _ hOrder, ?_⟩
  obtain ⟨outcome, hOutcome, -, hEnd, -⟩ := hDecides [done, cancelled]
  rw [hOutcome, hEnd cancelled hFirst]
  rfl

end Resolution.Machine

end DeviceTrust
