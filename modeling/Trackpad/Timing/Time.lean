/-!
# Time — milliseconds on the clock

Samples and timers share a clock that counts milliseconds in one word. `Time.plus` stops at the
largest time instead of going round, so a deadline is never before the time it was set at.
-/

namespace Trackpad

/-- A time on the clock that samples and timers share, in milliseconds. -/
abbrev Time := UInt64

namespace Time

/-- The time `delay` milliseconds later, or the largest time if that is past it. -/
def plus (t delay : Time) : Time := UInt64.ofNat (min (t.toNat + delay.toNat) 0xFFFFFFFFFFFFFFFF)

theorem toNat_plus (t delay : Time) :
    (t.plus delay).toNat = min (t.toNat + delay.toNat) 0xFFFFFFFFFFFFFFFF := by
  simp only [plus, UInt64.toNat_ofNat']
  omega

/-- No delay leads back in time. -/
theorem le_plus (t delay : Time) : t ≤ t.plus delay := by
  have := t.toNat_lt
  rw [UInt64.le_iff_toNat_le, toNat_plus]
  omega

end Time

end Trackpad
