/-! # Events that still hold

An event of a run holds until a later event ends it. The record of what still holds after a run is
kept one event at a time, so invariants between a state and its history go by induction on the run.
-/

namespace DeviceTrust

/-- `event` occurs in `run`, and nothing that comes after it ends it. Whether something is an end may
depend on the run before it. -/
def Since {α : Type} (ends : List α → α → Prop) (run : List α) (event : α) : Prop :=
  ∃ past recent, run = past ++ event :: recent ∧
    ∀ middle last rest, recent = middle ++ last :: rest → ¬ ends (past ++ event :: middle) last

/-- Some event of the run starts it, and nothing that comes after that event ends it. Either may depend
on the run before. -/
def Underway {α : Type} (starts ends : List α → α → Prop) (run : List α) : Prop :=
  ∃ past event recent, run = past ++ event :: recent ∧ starts past event ∧
    ∀ middle last rest, recent = middle ++ last :: rest → ¬ ends (past ++ event :: middle) last

variable {α : Type} {starts ends : List α → α → Prop} {run past recent : List α} {event last : α}

theorem not_underway_nil : ¬ Underway starts ends [] := by
  rintro ⟨past, event, recent, hRun, _⟩
  simp at hRun

theorem underway_concat : Underway starts ends (run ++ [last]) ↔
    starts run last ∨ (Underway starts ends run ∧ ¬ ends run last) := by
  constructor
  · rintro ⟨past, event, recent, hRun, hStarts, hEnds⟩
    rcases List.eq_nil_or_concat recent with rfl | ⟨front, final, rfl⟩
    · obtain ⟨rfl, hLast⟩ := List.append_inj' hRun rfl
      obtain rfl : last = event := (List.cons.inj hLast).1
      exact .inl hStarts
    · have hSplit : run ++ [last] = (past ++ event :: front) ++ [final] := by simpa using hRun
      obtain ⟨hFront, hFinal⟩ := List.append_inj' hSplit rfl
      obtain rfl : last = final := (List.cons.inj hFinal).1
      refine .inr ⟨⟨past, event, front, hFront, hStarts, ?_⟩, ?_⟩
      · intro middle other rest hRest
        exact hEnds middle other (rest ++ [last]) (by simp [hRest])
      · rw [hFront]
        exact hEnds front last [] (by simp)
  · rintro (hStarts | ⟨⟨past, event, recent, hRun, hStarts, hEnds⟩, hLast⟩)
    · exact ⟨run, last, [], rfl, hStarts, by simp⟩
    · refine ⟨past, event, recent ++ [last], by simp [hRun], hStarts, ?_⟩
      intro middle other rest hRest
      rcases List.eq_nil_or_concat rest with rfl | ⟨front, final, rfl⟩
      · obtain ⟨rfl, hOther⟩ := List.append_inj' hRest rfl
        obtain rfl : last = other := (List.cons.inj hOther).1
        rwa [← hRun]
      · have hSplit : recent ++ [last] = (middle ++ other :: front) ++ [final] := by simpa using hRest
        exact hEnds middle other front (List.append_inj' hSplit rfl).1

theorem since_iff_underway :
    Since ends run event ↔ Underway (fun _ first => first = event) ends run := by
  constructor
  · rintro ⟨past, recent, hRun, hEnds⟩
    exact ⟨past, event, recent, hRun, rfl, hEnds⟩
  · rintro ⟨past, _, recent, hRun, rfl, hEnds⟩
    exact ⟨past, recent, hRun, hEnds⟩

theorem not_since_nil : ¬ Since ends [] event := by
  rw [since_iff_underway]
  exact not_underway_nil

theorem since_concat :
    Since ends (run ++ [last]) event ↔ event = last ∨ (Since ends run event ∧ ¬ ends run last) := by
  rw [since_iff_underway, since_iff_underway, underway_concat, eq_comm]

theorem not_since_of_ended (hEnds : ends past last) (hLast : event ≠ last) (hRecent : event ∉ recent) :
    ¬ Since ends (past ++ last :: recent) event := by
  rintro ⟨before, after, hRun, hHolds⟩
  obtain ⟨middle, _, hRest⟩ | ⟨middle, rfl, hRest⟩ := List.append_eq_append_iff.mp hRun
  · have hEvent : event ∈ last :: recent := by simp [hRest]
    exact (List.mem_cons.mp hEvent).elim hLast hRecent
  · cases middle with
    | nil => exact hLast (List.cons.inj hRest).1
    | cons first middle =>
      obtain ⟨rfl, rfl⟩ := List.cons.inj hRest
      exact hHolds middle last recent rfl hEnds

theorem Since.mem (h : Since ends run event) : event ∈ run := by
  obtain ⟨past, recent, rfl, _⟩ := h
  simp

end DeviceTrust
