import Trackpad.Proofs.Baseline

/-!
# Reported — contacts that are listed, counted and measured

A sample tells of its contacts twice: by a count, which is a byte, and by a list of positions, which
may be of any length. The kind of a sample looks at the count, the distance of its contacts at both.

`Sample.withPointers` sets the count by the list. The count stops where a byte ends and does not
begin anew, so it is below two exactly if the list is (`Sample.pointerCount_lt_two_iff`). For a
sample that was given its contacts this way it makes no difference which of the two is asked.
-/

namespace Trackpad.Sample

theorem kind_eq_pinchZoom_iff {s : Sample} :
    s.kind = .pinchZoom ↔ s.isPhysicalPress = false ∧ ¬s.pointerCount < 2 := by
  unfold kind
  by_cases hpress : s.isPhysicalPress = true
  · simp [hpress]
  · by_cases hcount : 2 ≤ s.pointerCount
    · simp [hpress, hcount]
    · by_cases htwo : s.isTwoFinger = true <;> simp [hpress, hcount, htwo]

variable (s : Sample) (ps : List Point)

/-- Flags and contacts are set in any order. -/
theorem withFlags_withPointers (flags : SampleFlags) :
    (s.withPointers ps).withFlags flags = (s.withFlags flags).withPointers ps := rfl

/-- No list is so long that its count would be small again. -/
theorem pointerCount_lt_two_iff : (s.withPointers ps).pointerCount < 2 ↔ ps.length < 2 := by
  have htwo : (2 : UInt8).toNat = 2 := rfl
  rw [UInt8.lt_iff_toNat_lt, pointerCount_withPointers, htwo]
  omega

/-- The positions that are reported are the first two of the list. -/
theorem reports_withPointers_iff {p q : Point} :
    (s.withPointers ps).Reports p q ↔ ∃ rest, ps = p :: q :: rest := by
  refine ⟨And.right, fun ⟨rest, hps⟩ => ⟨?_, rest, hps⟩⟩
  rw [pointerCount_lt_two_iff, hps]
  exact Nat.not_lt.2 (Nat.le_add_left 2 _)

theorem contactDistance_withPointers :
    (s.withPointers ps).contactDistance =
      if h : 2 ≤ ps.length then ps[0].distance ps[1] else 0 := by
  split
  · rename_i h
    obtain ⟨p, q, rest, rfl⟩ : ∃ p q rest, ps = p :: q :: rest := by
      match ps, h with
      | p :: q :: rest, _ => exact ⟨p, q, rest, rfl⟩
    exact contactDistance_of_reports ((s.reports_withPointers_iff _).2 ⟨rest, rfl⟩)
  · rename_i h
    exact contactDistance_of_missing (Nat.lt_of_not_le h)

theorem position_withPointers :
    (s.withPointers ps).position = if h : 0 < ps.length then ps[0] else s.position := by
  cases ps <;> rfl

/-- **Count, kind and distance agree.** Give any sample a list of contacts, of whatever length, and
any flags. Its count is the length of the list, or 255 if the list is longer. Unless the physical
button is held it is a pinch exactly if the list has two contacts or more. The distance of its
contacts is the one of the first two, and zero if there are fewer. Its position is the first
contact, and the one it had if there is none. -/
theorem contacts_agree (s : Sample) (ps : List Point) (flags : SampleFlags) :
    let t := (s.withPointers ps).withFlags flags
    t.pointerCount.toNat = min ps.length 255 ∧
      (t.kind = .pinchZoom ↔ s.buttons.contains Buttons.primary = false ∧ 2 ≤ ps.length) ∧
      t.contactDistance = (if h : 2 ≤ ps.length then ps[0].distance ps[1] else 0) ∧
      t.position = (if h : 0 < ps.length then ps[0] else s.position) := by
  intro t
  have ht : t = (s.withFlags flags).withPointers ps := s.withFlags_withPointers ps flags
  rw [ht, kind_eq_pinchZoom_iff, pointerCount_lt_two_iff, Nat.not_lt]
  exact ⟨pointerCount_withPointers _ ps, Iff.rfl, contactDistance_withPointers _ ps,
    position_withPointers _ ps⟩

/-- One contact more than a byte can count. -/
example :
    ((single .down ⟨0, 0⟩ 0).withPointers (List.replicate 256 ⟨0, 0⟩)).kind = .pinchZoom := by
  decide +kernel

end Trackpad.Sample
