import DeviceTrust.Proofs.History.Cancellation
/-! # History in parts

What two stretches of a history show together, told from what each of them shows alone: the first
stretch decides if the flow came to its end in it, or if the second shows nothing. So history can be read
page by page, and what comes after the end of a flow does no harm to it.
-/

namespace DeviceTrust

/-- Events that tell nothing of the flow are left out here and there. -/
inductive Thinned : List HistoryEvent → List HistoryEvent → Prop
  | nil : Thinned [] []
  | keep {events kept : List HistoryEvent} (event : HistoryEvent) (h : Thinned events kept) :
    Thinned (event :: events) (event :: kept)
  | drop {events kept : List HistoryEvent} {event : HistoryEvent} (hEnds : ¬ event.Ends)
    (hReady : ¬ event.IsReady) (h : Thinned events kept) : Thinned (event :: events) kept

namespace HistoryEvent

theorem exists_first_end {events : List HistoryEvent} (h : ∃ event ∈ events, event.Ends) :
    ∃ earlier event later, events = earlier ++ event :: later ∧
      (∀ before ∈ earlier, ¬ before.Ends) ∧ event.Ends := by
  have hFound : (events.find? fun event => event.Ends).isSome = true := by
    rw [List.find?_isSome]
    simpa using h
  obtain ⟨event, hEvent⟩ := Option.isSome_iff_exists.mp hFound
  obtain ⟨hEnds, earlier, later, hSplit, hOpen⟩ := List.find?_eq_some_iff_append.mp hEvent
  exact ⟨earlier, event, later, hSplit, by simpa using hOpen, by simpa using hEnds⟩

end HistoryEvent

namespace Outcome

variable {own : UserId} {before : Outcome} {event : HistoryEvent}
  {events kept earlier later xs ys : List HistoryEvent}

/-! ## Open histories -/

theorem fold_of_open (h : ∀ event ∈ events, ¬ event.Ends) :
    fold own before events = if ∃ event ∈ events, event.IsReady then ready else before := by
  have hNil : fold own before (events ++ []) = fold own _ [] := fold_append_of_not_ends h []
  rwa [List.append_nil, fold] at hNil

theorem fold_append_of_open (h : ∀ event ∈ xs, ¬ event.Ends) :
    fold own before (xs ++ ys) = fold own (fold own before xs) ys := by
  rw [fold_append_of_not_ends h, fold_of_open h]

/-! ## Ends -/

theorem fold_cons_of_ends (h : event.Ends) (later : List HistoryEvent) :
    fold own before (event :: later) = ofEvents own [event] := by
  rcases h with hDone | hCancel
  · simp [ofEvents, fold, HistoryEvent.kind, hDone]
  · simp [ofEvents, fold, HistoryEvent.kind, hCancel]

theorem fold_of_first_end (hOpen : ∀ before ∈ earlier, ¬ before.Ends) (hEnds : event.Ends) :
    fold own before (earlier ++ event :: later) = ofEvents own [event] := by
  rw [fold_append_of_open hOpen, fold_cons_of_ends hEnds]

theorem fold_append_of_ended (h : ∃ event ∈ xs, event.Ends) :
    fold own before (xs ++ ys) = fold own before xs := by
  obtain ⟨earlier, event, later, rfl, hOpen, hEnds⟩ := HistoryEvent.exists_first_end h
  rw [List.append_assoc, List.cons_append, fold_of_first_end hOpen hEnds,
    fold_of_first_end hOpen hEnds]

theorem ofEvents_singleton_of_ends (h : event.Ends) :
    ofEvents own [event] ≠ started ∧ ofEvents own [event] ≠ ready := by
  have hCancel (code : CancelCode) :
      ofCancel own event.sender code ≠ started ∧ ofCancel own event.sender code ≠ ready := by
    cases code with
    | user =>
      rw [ofCancel]
      split <;> simp
    | _ => simp [ofCancel]
  rcases h with hDone | hType
  · simp [ofEvents, fold, HistoryEvent.kind, hDone]
  · simpa [ofEvents, fold, HistoryEvent.kind, hType] using hCancel event.cancelCode

theorem open_iff : ofEvents own events = started ∨ ofEvents own events = ready ↔
    ∀ event ∈ events, ¬ event.Ends := by
  by_cases hEnded : ∃ event ∈ events, event.Ends
  · obtain ⟨earlier, event, later, rfl, hOpen, hEnds⟩ := HistoryEvent.exists_first_end hEnded
    refine iff_of_false ?_ (by simpa using hEnded)
    rw [ofEvents, fold_of_first_end hOpen hEnds]
    exact not_or.mpr (ofEvents_singleton_of_ends hEnds)
  · have hOpen : ∀ event ∈ events, ¬ event.Ends := by simpa using hEnded
    refine iff_of_true ?_ hOpen
    rw [ofEvents, fold_of_open hOpen]
    split <;> simp

theorem ended_iff : (∃ event ∈ events, event.Ends) ↔
    ofEvents own events ≠ started ∧ ofEvents own events ≠ ready := by
  rw [Ne, Ne, ← not_or, open_iff]
  simp

/-! ## Composition -/

theorem fold_eq_ite : fold own before events =
    if ofEvents own events = started then before else ofEvents own events := by
  by_cases hEnded : ∃ event ∈ events, event.Ends
  · rw [if_neg (ended_iff.mp hEnded).1]
    obtain ⟨earlier, event, later, rfl, hOpen, hEnds⟩ := HistoryEvent.exists_first_end hEnded
    rw [ofEvents, fold_of_first_end hOpen hEnds, fold_of_first_end hOpen hEnds]
  · have hOpen : ∀ event ∈ events, ¬ event.Ends := by simpa using hEnded
    rw [ofEvents, fold_of_open hOpen, fold_of_open hOpen]
    by_cases hReady : ∃ event ∈ events, event.IsReady
    · simp only [if_pos hReady, reduceCtorEq, if_false]
    · simp only [if_neg hReady, if_true]

theorem ofEvents_append : ofEvents own (xs ++ ys) =
    if (∃ event ∈ xs, event.Ends) ∨ ofEvents own ys = started then ofEvents own xs
    else ofEvents own ys := by
  by_cases hEnded : ∃ event ∈ xs, event.Ends
  · rw [if_pos (.inl hEnded), ofEvents, fold_append_of_ended hEnded, ofEvents]
  · simp only [hEnded, false_or]
    rw [ofEvents, fold_append_of_open (by simpa using hEnded), fold_eq_ite, ofEvents,
      ofEvents]

theorem fold_eq_of_thinned (h : Thinned events kept) :
    fold own before kept = fold own before events := by
  induction h generalizing before with
  | nil => rfl
  | keep event h ih =>
    rw [fold, fold]
    split
    · exact ih
    · rfl
    · rfl
    · exact ih
  | drop hEnds hReady h ih =>
    rw [fold, HistoryEvent.kind_of_not_ends hEnds hReady]
    exact ih

theorem ofEvents_of_uncoded (hOpen : ∀ before ∈ earlier, ¬ before.Ends)
    (hCancel : event.eventType = "m.key.verification.cancel")
    (hCode : ∀ token, event.content.get? "code" ≠ some (.text token)) :
    ofEvents own (earlier ++ event :: later) = failed :=
  ofEvents_of_cancelledBy ⟨⟨later, rfl⟩, hOpen, hCancel, .missing hCode⟩

/-- The outcomes of histories compose: what two stretches show together is told from what each shows
alone, whatever the events contain and whatever stands between those that count. -/
theorem outcomes_compose (own : UserId) :
    (∀ xs ys, ofEvents own (xs ++ ys) =
      if (∃ event ∈ xs, event.Ends) ∨ ofEvents own ys = started then ofEvents own xs
      else ofEvents own ys) ∧
    (∀ events, (∃ event ∈ events, event.Ends) ↔
      ofEvents own events ≠ started ∧ ofEvents own events ≠ ready) ∧
    (∀ events kept, Thinned events kept → ofEvents own kept = ofEvents own events) ∧
    ∀ earlier event later, (∀ before ∈ earlier, ¬ before.Ends) →
      event.eventType = "m.key.verification.cancel" →
      (∀ token, event.content.get? "code" ≠ some (.text token)) →
      ofEvents own (earlier ++ event :: later) = failed := by
  refine ⟨fun _ _ => ofEvents_append, fun _ => ended_iff, fun _ _ => fold_eq_of_thinned, ?_⟩
  intro earlier event later
  exact ofEvents_of_uncoded

namespace Sample

def chatter : HistoryEvent := ⟨"m.room.message", .bob, 2, .null⟩

/-- A cancellation with a code that is no text. -/
def uncoded : HistoryEvent := ⟨"m.key.verification.cancel", .bob, 3, .object [("code", .null)]⟩

theorem thinned_chatter : Thinned [answer, chatter, uncoded] [answer, uncoded] :=
  .keep answer (.drop (by decide) (by decide) (.keep uncoded .nil))

end Sample

open Sample Request.Sample in
theorem uncoded_cancellation_fails :
    Thinned [answer, chatter, uncoded] [answer, uncoded] ∧
      ofEvents .alice [answer, uncoded] = ofEvents .alice [answer, chatter, uncoded] ∧
      ofEvents .alice [answer, uncoded] = failed := by
  obtain ⟨-, -, hThinned, hUncoded⟩ := outcomes_compose .alice
  refine ⟨thinned_chatter, hThinned _ _ thinned_chatter, ?_⟩
  exact hUncoded [answer] uncoded [] (by decide) rfl nofun

end Outcome

end DeviceTrust
