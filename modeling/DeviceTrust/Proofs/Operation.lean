import DeviceTrust.Verification.Operation
/-! # What operations ensure

What holds at the end of an operation, for all collaborators whose answers are such as are assumed. The
assumption on an answer may depend on the state in which the call is made.
-/

namespace DeviceTrust.Operation

variable {S α β σ : Type}

/-- Every end of the operation from a state satisfies the postcondition, if all answers are as assumed. -/
def Ensures (assumes : S → (call : Call) → call.Answer → Prop) :
    Operation S α → (α → S → Prop) → S → Prop
  | done value, post, s => post value s
  | access update next, post, s => (next s).Ensures assumes post (update s)
  | ask call next, post, s => ∀ answer, assumes s call answer → (next answer).Ensures assumes post s

/-- In a run from a state, the collaborators give only such answers as are assumed. -/
def Meets (assumes : S → (call : Call) → call.Answer → Prop) (answer : Collaborators σ) :
    Operation S α → S → σ → Prop
  | done _, _, _ => True
  | access update next, s, world => (next s).Meets assumes answer (update s) world
  | ask call next, s, world =>
    assumes s call (answer call world).1 ∧
      (next (answer call world).1).Meets assumes answer s (answer call world).2

def CallsOnly : Operation S α → Prop
  | done _ => True
  | access _ _ => False
  | ask _ next => ∀ answer, (next answer).CallsOnly

variable {assumes : S → (call : Call) → call.Answer → Prop} {answer : Collaborators σ}
  {p : Operation S α} {k : α → Operation S β} {s : S} {world : σ}

/-! ## Sequences -/

theorem run_bind : (p >>= k).run answer s world =
    { (k (p.run answer s world).value).run answer (p.run answer s world).state
        (p.run answer s world).world with
      calls := (p.run answer s world).calls ++ ((k (p.run answer s world).value).run answer
        (p.run answer s world).state (p.run answer s world).world).calls } := by
  induction p generalizing s world with
  | done value => rfl
  | access update next ih => exact ih s
  | ask call next ih =>
    rw [bind_ask, run, run]
    simp only [ih, List.cons_append]

theorem meets_bind : (p >>= k).Meets assumes answer s world ↔
    p.Meets assumes answer s world ∧ (k (p.run answer s world).value).Meets assumes answer
      (p.run answer s world).state (p.run answer s world).world := by
  induction p generalizing s world with
  | done value => exact (iff_of_eq (true_and _)).symm
  | access update next ih => exact ih s
  | ask call next ih =>
    rw [bind_ask, Meets, Meets, ih, and_assoc]
    rfl

theorem ensures_bind {post : β → S → Prop} : (p >>= k).Ensures assumes post s ↔
    p.Ensures assumes (fun a s => (k a).Ensures assumes post s) s := by
  induction p generalizing s with
  | done value => exact Iff.rfl
  | access update next ih => exact ih s
  | ask call next ih => exact forall_congr' fun a => imp_congr_right fun _ => ih a

/-! ## Postconditions -/

variable {post other : α → S → Prop}

theorem Ensures.mono (h : p.Ensures assumes post s) (hPost : ∀ a t, post a t → other a t) :
    p.Ensures assumes other s := by
  induction p generalizing s with
  | done value => exact hPost value s h
  | access update next ih => exact ih s h
  | ask call next ih =>
    intro a hAnswer
    exact ih a (h a hAnswer)

theorem Ensures.of_run (h : p.Ensures assumes post s) (hMeets : p.Meets assumes answer s world) :
    post (p.run answer s world).value (p.run answer s world).state := by
  induction p generalizing s world with
  | done value => exact h
  | access update next ih => exact ih s h hMeets
  | ask call next ih => exact ih _ (h _ hMeets.1) hMeets.2

theorem meets_of_forall (h : ∀ s call world, assumes s call (answer call world).1) :
    p.Meets assumes answer s world := by
  induction p generalizing s world with
  | done value => trivial
  | access update next ih => exact ih s
  | ask call next ih => exact ⟨h s call world, ih _⟩

theorem CallsOnly.bind (h : p.CallsOnly) (hNext : ∀ a, (k a).CallsOnly) : (p >>= k).CallsOnly := by
  induction p with
  | done value => exact hNext value
  | access update next => exact h.elim
  | ask call next ih =>
    intro a
    exact ih a (h a)

theorem CallsOnly.ensures (h : p.CallsOnly) (hPost : ∀ a, post a s) : p.Ensures assumes post s := by
  induction p with
  | done value => exact hPost value
  | access update next => exact h.elim
  | ask call next ih =>
    intro a _
    exact ih a (h a)

variable {postcondition : β → S → Prop}

theorem ensures_read_bind {view : S → α} : (read view >>= k).Ensures assumes postcondition s ↔
    (k (view s)).Ensures assumes postcondition s :=
  Iff.rfl

theorem ensures_atomically_bind {step : S → α × S} :
    (atomically step >>= k).Ensures assumes postcondition s ↔
      (k (step s).1).Ensures assumes postcondition (step s).2 :=
  Iff.rfl

theorem ensures_call_bind {call : Call} {k : call.Answer → Operation S β} :
    (Operation.call call >>= k).Ensures assumes postcondition s ↔
      ∀ a, assumes s call a → (k a).Ensures assumes postcondition s :=
  Iff.rfl

theorem run_read_bind {view : S → α} :
    (read view >>= k).run answer s world = (k (view s)).run answer s world :=
  rfl

theorem run_atomically_bind {step : S → α × S} :
    (atomically step >>= k).run answer s world = (k (step s).1).run answer (step s).2 world :=
  rfl

theorem run_call_bind {call : Call} {k : call.Answer → Operation S β} :
    (Operation.call call >>= k).run answer s world =
      { (k (answer call world).1).run answer s (answer call world).2 with
        calls := call :: ((k (answer call world).1).run answer s (answer call world).2).calls } :=
  rfl

theorem meets_read_bind {view : S → α} : (read view >>= k).Meets assumes answer s world ↔
    (k (view s)).Meets assumes answer s world :=
  Iff.rfl

theorem meets_call_bind {call : Call} {k : call.Answer → Operation S β} :
    (Operation.call call >>= k).Meets assumes answer s world ↔
      assumes s call (answer call world).1 ∧
        (k (answer call world).1).Meets assumes answer s (answer call world).2 :=
  Iff.rfl

theorem CallsOnly.state_run (h : p.CallsOnly) : (p.run answer s world).state = s := by
  induction p generalizing world with
  | done value => rfl
  | access update next => exact h.elim
  | ask call next ih => exact ih _ (h _)

theorem CallsOnly.run_bind_done (h : p.CallsOnly) (value : β) :
    (p >>= fun _ => done value).run answer s world =
      ⟨value, s, (p.run answer s world).world, (p.run answer s world).calls⟩ := by
  rw [run_bind, h.state_run]
  simp only [run, List.append_nil]

end DeviceTrust.Operation
