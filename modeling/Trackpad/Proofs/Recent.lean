import Mathlib.Data.List.DropRight
import Mathlib.Data.List.Induction
import Trackpad.Gesture.History

/-!
# Recent — a history is the recent past

A history is pushed to and cleared in any order. What it holds then is the end of what was pushed
since it was cleared last, as long as its capacity allows (`History.edited_eq`).

A push makes room by dropping the oldest entry time and again, until there is room for one more.
This loop ends for every capacity but zero, whatever the history holds (`History.makesRoom_iff`).
With capacity zero a push returns before it comes to the loop, so every push ends, and with the
history that `History.push` gives (`History.pushes_iff`).
-/

namespace Trackpad.History

/-! ## Pushing and clearing -/

/-- What is done to a history. -/
inductive Edit where
  | push (entry : String)
  | clear
deriving DecidableEq

namespace Edit

def isPush : Edit → Bool
  | push _ => true
  | clear => false

/-- The entry of a push. -/
def entry? : Edit → Option String
  | push entry => some entry
  | clear => none

end Edit

/-- Edits a history. -/
def edit (h : History) : Edit → History
  | .push entry => h.push entry
  | .clear => h.clear

/-- Edits a history time and again. -/
def edited (h : History) (edits : List Edit) : History := edits.foldl edit h

/-- The entries that were pushed since the history was cleared last, oldest first. -/
def pushed (edits : List Edit) : List String :=
  (edits.rtakeWhile Edit.isPush).filterMap Edit.entry?

theorem pushed_concat_push (edits : List Edit) (entry : String) :
    pushed (edits ++ [.push entry]) = pushed edits ++ [entry] := by
  rw [pushed, List.rtakeWhile_concat_pos Edit.isPush edits _ rfl, List.filterMap_append]
  rfl

theorem pushed_concat_clear (edits : List Edit) : pushed (edits ++ [.clear]) = [] := by
  rw [pushed, List.rtakeWhile_concat_neg Edit.isPush edits _ (by simp [Edit.isPush])]
  rfl

/-- A push to the end of a list gives the end of the list with one more entry. -/
theorem push_rtake (past : List String) (capacity : Nat) (entry : String) :
    push ⟨past.rtake capacity, capacity⟩ entry = ⟨(past ++ [entry]).rtake capacity, capacity⟩ := by
  cases capacity with
  | zero => rw [push_of_zero rfl, List.rtake_zero, List.rtake_zero]
  | succ n =>
    -- One entry has to go if the list has filled the history, and none if it has not.
    have hkept : (past.rtake (n + 1)).drop ((past.rtake (n + 1)).length + 1 - (n + 1)) =
        past.rtake n := by
      simp only [List.rtake, List.length_drop, List.drop_drop]
      congr 1
      omega
    rw [push, if_neg n.succ_ne_zero, hkept, List.rtake_concat_succ]

/-- Whatever was done to it, a history holds the end of what was pushed since it was cleared. -/
theorem edited_eq (capacity : Nat) (edits : List Edit) :
    (ofCapacity capacity).edited edits = ⟨(pushed edits).rtake capacity, capacity⟩ := by
  induction edits using List.reverseRecOn with
  | nil => exact congrArg (History.mk · capacity) (List.rtake_nil (α := String) capacity).symm
  | append_singleton edits last ih =>
    have hlast : (ofCapacity capacity).edited (edits ++ [last]) =
        ((ofCapacity capacity).edited edits).edit last := List.foldl_concat ..
    rw [hlast, ih]
    cases last with
    | push entry => rw [pushed_concat_push, edit, push_rtake]
    | clear => rw [pushed_concat_clear, List.rtake_nil, edit, clear]

/-! ## Making room -/

/-- The loop that makes room for one more entry: as long as the capacity is used up, the oldest
entry goes. Begun with `entries`, it ends with `kept`. -/
inductive MakesRoom (capacity : Nat) : List String → List String → Prop where
  | done {entries : List String} (hroom : entries.length < capacity) :
      MakesRoom capacity entries entries
  | round {entries kept : List String} (hfull : capacity ≤ entries.length)
      (h : MakesRoom capacity entries.tail kept) : MakesRoom capacity entries kept

/-- Each round leaves one entry less, so the loop comes to where there is room for one more, if the
capacity is not zero. -/
theorem makesRoom_drop {capacity : Nat} (hne : capacity ≠ 0) (entries : List String) :
    MakesRoom capacity entries (entries.drop (entries.length + 1 - capacity)) := by
  induction entries with
  | nil =>
    rw [List.drop_nil]
    exact .done (Nat.pos_of_ne_zero hne)
  | cons first rest ih =>
    by_cases hroom : (first :: rest).length < capacity
    · have hnone : (first :: rest).length + 1 - capacity = 0 := by omega
      rw [hnone, List.drop_zero]
      exact .done hroom
    · have hone : (first :: rest).length + 1 - capacity = rest.length + 1 - capacity + 1 := by
        rw [List.length_cons] at hroom ⊢
        omega
      rw [hone, List.drop_succ_cons]
      exact .round (Nat.le_of_not_lt hroom) ih

/-- The loop ends unless the capacity is zero. -/
theorem makesRoom_iff {capacity : Nat} {entries kept : List String} :
    MakesRoom capacity entries kept ↔
      capacity ≠ 0 ∧ kept = entries.drop (entries.length + 1 - capacity) := by
  refine ⟨fun h => ?_, fun ⟨hne, hkept⟩ => hkept ▸ makesRoom_drop hne entries⟩
  induction h with
  | @done entries hroom =>
    have hnone : entries.length + 1 - capacity = 0 := by omega
    exact ⟨by omega, by rw [hnone, List.drop_zero]⟩
  | @round entries kept hfull _ ih =>
    obtain ⟨hne, rfl⟩ := ih
    refine ⟨hne, ?_⟩
    rw [List.length_tail, List.drop_tail]
    congr 1
    omega

/-- A push as it goes: it returns at once if nothing is to be kept, and else it makes room first. -/
inductive Pushes (entry : String) : History → History → Prop where
  | returns {h : History} (hc : h.capacity = 0) : Pushes entry h h
  | appends {h : History} {kept : List String} (hc : h.capacity ≠ 0)
      (hroom : MakesRoom h.capacity h.entries kept) :
      Pushes entry h { h with entries := kept ++ [entry] }

/-- Every push ends. -/
theorem pushes_iff {entry : String} {h next : History} :
    Pushes entry h next ↔ next = h.push entry := by
  constructor
  · rintro (hc | ⟨hc, hroom⟩)
    · exact (push_of_zero hc entry).symm
    · rw [(makesRoom_iff.1 hroom).2, push, if_neg hc]
  · rintro rfl
    by_cases hc : h.capacity = 0
    · rw [push_of_zero hc]
      exact .returns hc
    · rw [push, if_neg hc]
      exact .appends hc (makesRoom_iff.2 ⟨hc, rfl⟩)

/-! ## Result -/

/-- **A history is the recent past.** Take any capacity, and push to the empty history of it and
clear it in any order. Of the entries that were pushed since it was cleared last, it holds the
latest, as many as the capacity allows, in the order they were pushed in. And whatever a history
holds, and whatever its capacity is, a push to it comes to an end, loop and all, with the history
that `push` gives and no other. -/
theorem holds_most_recent (capacity : Nat) (edits : List Edit) :
    let h := (ofCapacity capacity).edited edits
    let past := pushed edits
    h.entries = past.rtake (min capacity past.length) ∧
      h.entries.length = min capacity past.length ∧
      ∀ (entry : String) (any next : History), Pushes entry any next ↔ next = any.push entry := by
  intro h past
  have hentries : h.entries = past.rtake (min capacity past.length) := by
    have hall : h.entries = past.rtake capacity := congrArg entries (edited_eq capacity edits)
    rw [hall, List.rtake, List.rtake]
    congr 1
    omega
  refine ⟨hentries, ?_, fun entry any next => pushes_iff⟩
  rw [hentries, List.rtake, List.length_drop]
  omega

/-- Three entries after a clear, of which two are kept. -/
example :
    ((ofCapacity 2).edited [.push "a", .clear, .push "b", .push "c", .push "d"]).entries =
      ["c", "d"] := by
  decide

end Trackpad.History
