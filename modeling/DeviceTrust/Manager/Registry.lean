/-! # Registry

Objects that stay the same while their values change. A handle names an object for good. Each object
counts how often its state was set to another one, so that a watcher knows whether it missed a change.
-/

namespace DeviceTrust

structure Handle (α : Type) where
  index : Nat
  deriving DecidableEq

structure Cell (α : Type) where
  value : α
  revision : Nat

structure Registry (α : Type) where
  cells : Array (Cell α) := #[]

/-- A watcher remembers the revision it saw last. -/
structure Watcher (α : Type) where
  handle : Handle α
  seen : Nat

namespace Registry

variable {α : Type}

def get? (registry : Registry α) (handle : Handle α) : Option α :=
  registry.cells[handle.index]?.map (·.value)

def add (registry : Registry α) (value : α) : Handle α × Registry α :=
  (⟨registry.cells.size⟩, ⟨registry.cells.push ⟨value, 0⟩⟩)

/-- Give an object a new value, and tell whether its state changed by that. -/
def set (registry : Registry α) (handle : Handle α) (value : α) (changed : Bool) : Registry α :=
  ⟨registry.cells.modify handle.index fun cell =>
    ⟨value, if changed then cell.revision + 1 else cell.revision⟩⟩

def watch? (registry : Registry α) (handle : Handle α) : Option (Watcher α) :=
  registry.cells[handle.index]?.map fun cell => ⟨handle, cell.revision⟩

/-- The latest value of an object if its state changed since the watcher last saw it. -/
def poll (registry : Registry α) (watcher : Watcher α) : Option α × Watcher α :=
  match registry.cells[watcher.handle.index]? with
  | some cell =>
    if cell.revision = watcher.seen then (none, watcher)
    else (some cell.value, { watcher with seen := cell.revision })
  | none => (none, watcher)

theorem get?_add_self (registry : Registry α) (value : α) :
    (registry.add value).2.get? (registry.add value).1 = some value := by
  simp [add, get?]

end Registry

end DeviceTrust
