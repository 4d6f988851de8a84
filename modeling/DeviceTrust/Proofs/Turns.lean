import DeviceTrust.Verification.Operation
/-! # Taking turns

Operations that are under way at once share a state and their collaborators. The one whose turn it is
makes its next access of the state and the calls up to the access after it. So no access is seen half
done, but whatever the others do may come between two accesses of an operation.
-/

namespace DeviceTrust

namespace Operation

variable {S α σ : Type}

def settle (answer : Collaborators σ) : Operation S α → σ → Operation S α × σ
  | done value, world => (done value, world)
  | access update next, world => (access update next, world)
  | ask call next, world => (next (answer call world).1).settle answer (answer call world).2

/-- Take one turn, which leaves the rest of the operation, the state and the collaborators. -/
def advance (answer : Collaborators σ) : Operation S α → S → σ → Operation S α × S × σ
  | access update next, state, world =>
    (((next state).settle answer world).1, update state, ((next state).settle answer world).2)
  | p, state, world => ((p.settle answer world).1, state, (p.settle answer world).2)

def Settled : Operation S α → Prop
  | ask .. => False
  | _ => True

theorem settled_settle (answer : Collaborators σ) (p : Operation S α) (world : σ) :
    (p.settle answer world).1.Settled := by
  induction p generalizing world with
  | done => trivial
  | access => trivial
  | ask call next ih => exact ih _ _

end Operation

structure Pool (S σ α : Type) where
  state : S
  world : σ
  left : List (Operation S α)

namespace Pool

open Operation

variable {S α σ : Type}

/-- The operation with that number takes a turn. One that is done, or that is not there, does nothing. -/
def turn (answer : Collaborators σ) (pool : Pool S σ α) (i : Nat) : Pool S σ α :=
  match pool.left[i]? with
  | none => pool
  | some p =>
    let (rest, state, world) := p.advance answer pool.state pool.world
    ⟨state, world, pool.left.set i rest⟩

def play (answer : Collaborators σ) (pool : Pool S σ α) (turns : List Nat) : Pool S σ α :=
  turns.foldl (turn answer) pool

def result? (pool : Pool S σ α) (i : Nat) : Option α :=
  match pool.left[i]? with
  | some (.done value) => some value
  | _ => none

variable {answer : Collaborators σ} {pool : Pool S σ α} {i : Nat} {p : Operation S α} {value : α}
  {update : S → S} {next : S → Operation S α} {turns before after : List Nat}

theorem play_append :
    pool.play answer (before ++ after) = (pool.play answer before).play answer after :=
  List.foldl_append

theorem play_concat : pool.play answer (turns ++ [i]) = (pool.play answer turns).turn answer i :=
  play_append

theorem result?_eq_some_iff : pool.result? i = some value ↔ pool.left[i]? = some (.done value) := by
  rw [result?]
  split
  · next found hLeft => simp [hLeft]
  · next hOther => exact iff_of_false nofun fun hLeft => hOther value hLeft

theorem turn_of_none (h : pool.left[i]? = none) : pool.turn answer i = pool := by
  rw [turn, h]

theorem set_self {left : List (Operation S α)} (h : left[i]? = some p) : left.set i p = left := by
  obtain ⟨hIndex, rfl⟩ := List.getElem?_eq_some_iff.mp h
  exact List.set_getElem_self hIndex

theorem getElem?_set_self {left : List (Operation S α)} {rest : Operation S α}
    (h : left[i]? = some p) : (left.set i rest)[i]? = some rest :=
  List.getElem?_set_self (List.getElem?_eq_some_iff.mp h).1

theorem of_getElem?_set_eq_some {left : List (Operation S α)} {rest : Operation S α} {j : Nat}
    (h : (left.set i rest)[j]? = some p) : (i = j ∧ p = rest) ∨ (i ≠ j ∧ left[j]? = some p) := by
  rw [List.getElem?_set] at h
  split at h
  · next hIndex =>
    split at h
    · exact .inl ⟨hIndex, (Option.some.inj h).symm⟩
    · cases h
  · next hIndex => exact .inr ⟨hIndex, h⟩

theorem turn_of_done (h : pool.left[i]? = some (.done value)) : pool.turn answer i = pool := by
  rw [turn, h]
  exact congrArg (Pool.mk pool.state pool.world) (set_self h)

theorem turn_of_access (answer : Collaborators σ)
    (h : pool.left[i]? = some (.access update next)) :
    pool.turn answer i = ⟨update pool.state, ((next pool.state).settle answer pool.world).2,
      pool.left.set i ((next pool.state).settle answer pool.world).1⟩ := by
  rw [turn, h]
  rfl

theorem turn_of_ask (answer : Collaborators σ) {call : Call} {next : call.Answer → Operation S α}
    (h : pool.left[i]? = some (.ask call next)) :
    pool.turn answer i = ⟨pool.state, (settle answer (.ask call next) pool.world).2,
      pool.left.set i (settle answer (.ask call next) pool.world).1⟩ := by
  rw [turn, h]
  rfl

/-! ## An operation that runs alone -/

/-- If nobody else takes a turn, an operation comes to that end. -/
def ComesTo (answer : Collaborators σ) (pool : Pool S σ α) (i : Nat) (last : Finished S σ α) : Prop :=
  ∃ n, pool.play answer (List.replicate n i) =
    ⟨last.state, last.world, pool.left.set i (.done last.value)⟩

theorem ComesTo.of_turn {last : Finished S σ α} (h : ComesTo answer (pool.turn answer i) i last)
    (hLeft : (pool.turn answer i).left = pool.left.set i p) : ComesTo answer pool i last := by
  obtain ⟨n, hPlay⟩ := h
  refine ⟨n + 1, ?_⟩
  show (pool.turn answer i).play answer (List.replicate n i) = _
  rw [hPlay, hLeft, List.set_set]

theorem comesTo_run_of_settled (p : Operation S α) (state : S) (world : σ)
    (left : List (Operation S α)) (h : left[i]? = some (p.settle answer world).1) :
    ComesTo answer ⟨state, (p.settle answer world).2, left⟩ i (p.run answer state world) := by
  induction p generalizing state world left with
  | done value =>
    exact ⟨0, congrArg (Pool.mk state world) (set_self h).symm⟩
  | access update next ih =>
    let pool : Pool S σ α := ⟨state, world, left⟩
    have hTurn : pool.turn answer i = _ := turn_of_access answer h
    refine ComesTo.of_turn ?_ (congrArg Pool.left hTurn)
    rw [settle, hTurn]
    exact ih state (update state) world _ (getElem?_set_self h)
  | ask call next ih => exact ih _ state _ left h

/-- An operation that takes all turns itself comes to what a run of it alone comes to. -/
theorem comesTo_run (h : pool.left[i]? = some p) :
    ComesTo answer pool i (p.run answer pool.state pool.world) := by
  cases p with
  | done value => exact comesTo_run_of_settled (.done value) pool.state pool.world pool.left h
  | access update next =>
    exact comesTo_run_of_settled (.access update next) pool.state pool.world pool.left h
  | ask call next =>
    have hTurn := turn_of_ask answer h
    refine ComesTo.of_turn ?_ (congrArg Pool.left hTurn)
    rw [hTurn]
    exact comesTo_run_of_settled (.ask call next) pool.state pool.world _ (getElem?_set_self h)

end Pool

end DeviceTrust
