import Trackpad.Json.Number

/-!
# Field — parts of a value by name and by kind

What readers of particular data share: `Value.field?` looks a member of an object up by its key and
refuses a key that is given twice, `Value.readOr` supplies a default for what is left out, and
`Value.float?` and `Value.natural?` take the two kinds of number.
-/

namespace Trackpad.Json.Value

/-- The members of an object whose keys are this name. -/
def named (name : String) (members : List (Option String × Value)) : List Value :=
  (members.filter fun m => m.1 == some name).map (·.2)

/-- The member of this name, if it is given at all; `none` if it is given twice. -/
def field? (name : String) (members : List (Option String × Value)) : Option (Option Value) :=
  match named name members with
  | [] => some none
  | [v] => some (some v)
  | _ => none

/-- Reads a value that may be left out, in favour of a default. -/
def readOr {α : Type} (default : α) (read? : Value → Option α) : Option Value → Option α
  | none => some default
  | some v => read? v

/-- A float, of any number. -/
def float? : Value → Option Float
  | number n => n.toFloat?
  | _ => none

/-- A natural number below a bound, of plain digits. -/
def natural? (bound : Nat) : Value → Option Nat
  | number n => n.natural? bound
  | _ => none

/-- A key that no member has is no fault. -/
theorem field?_of_forall_ne {name : String} {members : List (Option String × Value)}
    (h : ∀ m ∈ members, m.1 ≠ some name) : field? name members = some none := by
  have hn : named name members = [] := by
    simp only [named, List.map_eq_nil_iff, List.filter_eq_nil_iff, beq_iff_eq]
    exact h
  rw [field?, hn]

end Trackpad.Json.Value
