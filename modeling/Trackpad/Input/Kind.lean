import Trackpad.Input.Sample

/-!
# Kind — what a single sample looks like

`Sample.kind` looks at the sample alone. A held physical button wins over everything, then two or
more reported contacts, then the two-finger flag; what is left is one finger. `Kind.unknown` is
never the kind of a sample: it stands for "nothing seen yet".
-/

namespace Trackpad

/-- The coarse kind of gesture a sample belongs to. -/
inductive Kind where
  /-- Nothing seen yet. -/
  | unknown
  /-- One finger on the pad. -/
  | singleFinger
  /-- Two fingers, by the flag of the platform. -/
  | twoFinger
  /-- The physical button is held. -/
  | physicalPress
  /-- Two or more contacts are reported. -/
  | pinchZoom
deriving DecidableEq

namespace Kind

/-- The kind as one word. -/
def title : Kind → String
  | unknown => "Unknown"
  | singleFinger => "SingleFinger"
  | twoFinger => "TwoFinger"
  | physicalPress => "PhysicalPress"
  | pinchZoom => "PinchZoom"

end Kind

namespace Sample

/-- The kind of gesture this sample alone suggests. -/
def kind (s : Sample) : Kind :=
  if s.isPhysicalPress then .physicalPress
  else if 2 ≤ s.pointerCount then .pinchZoom
  else if s.isTwoFinger then .twoFinger
  else .singleFinger

/-- The distance of the first two contacts. Zero, which no baseline may be, stands for "not
measured": fewer than two contacts are reported, or fewer than two positions came along. -/
def contactDistance (s : Sample) : Float :=
  if s.pointerCount < 2 then 0
  else match s.pointers with
    | p :: q :: _ => p.distance q
    | _ => 0

theorem kind_ne_unknown (s : Sample) : s.kind ≠ .unknown := by
  unfold kind
  repeat' split
  all_goals simp

end Sample

end Trackpad
