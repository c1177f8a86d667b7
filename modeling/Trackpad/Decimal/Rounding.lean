/-!
# Rounding — a fraction to a whole number

`roundDiv num den tie` is the whole number nearest to `num / den`; what happens half way is the
choice of `tie`.
-/

namespace Trackpad.Decimal

/-- What is taken half way between two whole numbers. -/
inductive Tie where
  /-- The larger one. -/
  | up
  /-- The even one. -/
  | even
deriving DecidableEq

/-- Whether the larger of `floor` and `floor + 1` is the one to take, where the exact value stands
to the point half way between the two as `position` says. -/
def Tie.takesUpper (tie : Tie) (floor : Nat) (position : Ordering) : Bool :=
  match position with
  | .lt => false
  | .gt => true
  | .eq => match tie with
    | .up => true
    | .even => floor % 2 == 1

/-- The whole number nearest to `num / den`. -/
def roundDiv (num den : Nat) (tie : Tie) : Nat :=
  let floor := num / den
  if tie.takesUpper floor (compare (2 * (num % den)) den) then floor + 1 else floor

/-- Rounding a fraction of a positive denominator moves it by at most one half. -/
theorem roundDiv_near {num den : Nat} (h : 0 < den) (tie : Tie) :
    2 * (roundDiv num den tie * den) ≤ 2 * num + den ∧
      2 * num ≤ 2 * (roundDiv num den tie * den) + den := by
  have hd := Nat.div_add_mod num den
  have hm := Nat.mod_lt num h
  have hc : den * (num / den) = num / den * den := Nat.mul_comm _ _
  unfold roundDiv
  simp only []
  split
  · rename_i ht
    have : den ≤ 2 * (num % den) := by
      apply Nat.le_of_not_lt
      intro hlt
      simp [Tie.takesUpper, Nat.compare_eq_lt.2 hlt] at ht
    rw [Nat.add_mul]
    omega
  · rename_i ht
    have : 2 * (num % den) ≤ den := by
      apply Nat.le_of_not_lt
      intro hgt
      simp [Tie.takesUpper, Nat.compare_eq_gt.2 hgt] at ht
    omega

end Trackpad.Decimal
