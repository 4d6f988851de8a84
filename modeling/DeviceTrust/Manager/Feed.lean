/-! # Update feed

What was announced so far. A reader that falls behind by more than the slots of the feed loses the
oldest announcements, and is told how many.
-/

namespace DeviceTrust

structure Feed (α : Type) where
  sent : List α := []

inductive Delivery (α : Type) where
  | item (value : α)
  | lagged (missed : Nat)

def lagMessage (missed : Nat) : String := "channel lagged by " ++ toString missed

namespace Feed

variable {α : Type}

def capacity : Nat := 100

/-- The capacity is rounded up to a power of two. -/
def slots : Nat := capacity.nextPowerOfTwo

def announce (feed : Feed α) (value : α) : Feed α := ⟨feed.sent ++ [value]⟩

def missed (feed : Feed α) (position : Nat) : Nat := feed.sent.length - position - slots

def unread (feed : Feed α) (position : Nat) : List (Delivery α) :=
  (if feed.missed position = 0 then [] else [.lagged (feed.missed position)]) ++
    (feed.sent.drop (position + feed.missed position)).map .item

def latest (feed : Feed α) : Nat := feed.sent.length

theorem length_unread_le (feed : Feed α) (position : Nat) :
    (feed.unread position).length ≤ slots + 1 := by
  simp only [unread, missed, List.length_append, List.length_map, List.length_drop]
  by_cases h : feed.sent.length - position - slots = 0
  · simp [h]; omega
  · simp [h]; omega

end Feed

end DeviceTrust
