/-!
# Duration — lengths of time

A `Duration` counts whole seconds and the nanoseconds beyond them. Clocks count milliseconds in one
word, so `Duration.toMillis` drops parts of a millisecond and stops at the most that fit.
-/

namespace Trackpad

/-- A length of time: whole seconds, and nanoseconds short of a further one. -/
structure Duration where
  secs : UInt64
  nanos : Nat
  nanos_lt : nanos < 1000000000 := by decide
deriving DecidableEq

namespace Duration

/-- The duration of so many milliseconds. -/
def ofMillis (millis : Nat) (h : millis < 0x10000000000000000 := by decide) : Duration where
  secs := UInt64.ofNatLT (millis / 1000) (by simp only [UInt64.size]; omega)
  nanos := millis % 1000 * 1000000
  nanos_lt := by omega

/-- The duration of these seconds and nanoseconds, where nanoseconds may fill further seconds.
There is none if the seconds no longer fit their word. -/
def carry? (secs nanos : Nat) : Option Duration :=
  if h : secs + nanos / 1000000000 < 0x10000000000000000 then
    some
      ⟨UInt64.ofNatLT (secs + nanos / 1000000000) h, nanos % 1000000000, Nat.mod_lt _ (by decide)⟩
  else none

/-- The whole milliseconds of a duration, or the most that fit a word. -/
def toMillis (d : Duration) : UInt64 :=
  UInt64.ofNat (min (d.secs.toNat * 1000 + d.nanos / 1000000) 0xFFFFFFFFFFFFFFFF)

/-- A count of some unit and the decimal places beyond it, with no zeros at the end. `places` is how
many places the unit has and `part` counts the last of them. -/
def describeIn (unit : String) (whole part places : Nat) : String :=
  let digits := (Nat.repr (Nat.pow 10 places + part)).toList.drop 1
  let kept := (digits.reverse.dropWhile (· == '0')).reverse
  Nat.repr whole ++ (if kept.isEmpty then "" else "." ++ String.ofList kept) ++ unit

/-- A duration in words, in the largest unit that it fills once. -/
def describe (d : Duration) : String :=
  if 0 < d.secs then describeIn "s" d.secs.toNat d.nanos 9
  else if 1000000 ≤ d.nanos then describeIn "ms" (d.nanos / 1000000) (d.nanos % 1000000) 6
  else if 1000 ≤ d.nanos then describeIn "µs" (d.nanos / 1000) (d.nanos % 1000) 3
  else describeIn "ns" d.nanos 0 0

theorem toNat_toMillis (d : Duration) :
    d.toMillis.toNat = min (d.secs.toNat * 1000 + d.nanos / 1000000) 0xFFFFFFFFFFFFFFFF := by
  simp only [toMillis, UInt64.toNat_ofNat']
  omega

/-- Milliseconds come back as they went in. -/
theorem toMillis_ofMillis {millis : Nat} (h : millis < 0x10000000000000000) :
    (ofMillis millis h).toMillis.toNat = millis := by
  rw [toNat_toMillis]
  simp only [ofMillis, UInt64.toNat_ofNatLT]
  omega

end Duration

end Trackpad
