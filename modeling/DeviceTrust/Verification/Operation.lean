import DeviceTrust.Verification.Engine
/-! # Operations

An operation as a sequence of atomic steps: accesses of a shared state, and calls of the collaborators.
It fixes neither an order with the steps of other operations nor any answer of a collaborator. `run`
performs one operation from start to end with given collaborators.
-/

namespace DeviceTrust

inductive Operation (S α : Type) where
  | done (value : α)
  /-- Replace the state and go on with the state before. -/
  | access (update : S → S) (next : S → Operation S α)
  | ask (call : Call) (next : call.Answer → Operation S α)

namespace Operation

variable {S α β γ σ : Type}

def bind : Operation S α → (α → Operation S β) → Operation S β
  | done value, k => k value
  | access update next, k => access update fun s => (next s).bind k
  | ask call next, k => ask call fun answer => (next answer).bind k

instance : Monad (Operation S) where
  pure := done
  bind := bind

@[simp] theorem pure_eq (value : α) : (pure value : Operation S α) = done value := rfl

@[simp] theorem bind_ask (call : Call) (next : call.Answer → Operation S α) (k : α → Operation S β) :
    ask call next >>= k = ask call fun answer => next answer >>= k := rfl

theorem bind_done_right (p : Operation S α) : p >>= done = p := by
  induction p with
  | done => rfl
  | access update next ih => exact congrArg (access update) (funext ih)
  | ask call next ih => exact congrArg (ask call) (funext ih)

theorem bind_assoc (p : Operation S α) (k : α → Operation S β) (l : β → Operation S γ) :
    p >>= k >>= l = p >>= fun a => k a >>= l := by
  induction p with
  | done => rfl
  | access update next ih => exact congrArg (access update) (funext ih)
  | ask call next ih => exact congrArg (ask call) (funext ih)

instance : LawfulMonad (Operation S) :=
  LawfulMonad.mk' _ (fun p => bind_done_right p) (fun _ _ => rfl) bind_assoc

def atomically (step : S → α × S) : Operation S α :=
  access (fun s => (step s).2) fun s => done (step s).1

def read (view : S → α) : Operation S α := access id fun s => done (view s)

def call (c : Call) : Operation S c.Answer := ask c done

end Operation

/-- Collaborators with a state of their own, who answer every call. -/
abbrev Collaborators (σ : Type) := (call : Call) → σ → call.Answer × σ

structure Finished (S σ α : Type) where
  value : α
  state : S
  world : σ
  calls : List Call

namespace Operation

variable {S α σ : Type}

def run (answer : Collaborators σ) : Operation S α → S → σ → Finished S σ α
  | done value, state, world => ⟨value, state, world, []⟩
  | access update next, state, world => (next state).run answer (update state) world
  | ask call next, state, world =>
    let (a, world) := answer call world
    let rest := (next a).run answer state world
    { rest with calls := call :: rest.calls }

end Operation

end DeviceTrust
