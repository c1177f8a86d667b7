import Trackpad.Text.Layout
import Trackpad.Text.Quoted

/-!
# History — the most recent entries, up to a bound

A `History` keeps what was pushed since it was last cleared, but never more than its capacity: when
it is full, the oldest entries make room. With capacity zero it keeps nothing.
-/

namespace Trackpad

/-- The most recent entries, oldest first, and how many there may be. -/
structure History where
  entries : List String := []
  capacity : Nat := 0
deriving DecidableEq

namespace History

/-- An empty history of a capacity. -/
def ofCapacity (capacity : Nat) : History := { capacity := capacity }

/-- Appends an entry, and drops from the front what the capacity no longer holds. -/
def push (h : History) (entry : String) : History :=
  if h.capacity = 0 then h
  else { h with entries := h.entries.drop (h.entries.length + 1 - h.capacity) ++ [entry] }

/-- Drops every entry. -/
def clear (h : History) : History := { h with entries := [] }

/-- The history in words. -/
def describe (h : History) : String :=
  Text.record "EventHistory"
    [("entries", Text.list (h.entries.map Text.quoted)), ("capacity", toString h.capacity)]

theorem push_of_zero {h : History} (hc : h.capacity = 0) (entry : String) : h.push entry = h :=
  if_pos hc

theorem entries_push {h : History} (hc : h.capacity ≠ 0) (entry : String) :
    (h.push entry).entries = h.entries.drop (h.entries.length + 1 - h.capacity) ++ [entry] := by
  rw [push, if_neg hc]

@[simp] theorem capacity_push (h : History) (entry : String) :
    (h.push entry).capacity = h.capacity := by
  unfold push
  split <;> rfl

@[simp] theorem capacity_clear (h : History) : h.clear.capacity = h.capacity := rfl

/-- A push keeps the history within its capacity. -/
theorem length_push_le {h : History} (hle : h.entries.length ≤ h.capacity) (entry : String) :
    (h.push entry).entries.length ≤ h.capacity := by
  unfold push
  split
  · exact hle
  · simp only [List.length_append, List.length_drop, List.length_cons, List.length_nil]
    omega

end History

end Trackpad
