/-!
# Action — what a sample reports

The eleven kinds of raw sample a pad delivers, with the short names that the debug history and the
log write.
-/

namespace Trackpad

/-- What happened at the pad. -/
inductive Action where
  /-- The first contact touches the surface. -/
  | down
  /-- Contacts move while touching. -/
  | move
  /-- The last contact leaves the surface. -/
  | up
  /-- The platform gave up the stream. -/
  | cancel
  /-- A finger comes near above the surface. -/
  | hoverEnter
  /-- A finger moves near above the surface. -/
  | hoverMove
  /-- A finger goes away from above the surface. -/
  | hoverExit
  /-- A further contact touches the surface. -/
  | pointerDown
  /-- A contact that is not the last leaves the surface. -/
  | pointerUp
  /-- The button under the pad goes down. -/
  | buttonPress
  /-- The button under the pad comes up. -/
  | buttonRelease
deriving DecidableEq

namespace Action

/-- Every action, in declaration order. -/
def all : List Action :=
  [down, move, up, cancel, hoverEnter, hoverMove, hoverExit, pointerDown, pointerUp, buttonPress,
    buttonRelease]

/-- The short name of an action. -/
def name : Action → String
  | down => "DOWN"
  | move => "MOVE"
  | up => "UP"
  | cancel => "CANCEL"
  | hoverEnter => "HOVER_ENTER"
  | hoverMove => "HOVER_MOVE"
  | hoverExit => "HOVER_EXIT"
  | pointerDown => "POINTER_DOWN"
  | pointerUp => "POINTER_UP"
  | buttonPress => "BUTTON_PRESS"
  | buttonRelease => "BUTTON_RELEASE"

theorem mem_all (a : Action) : a ∈ all := by
  cases a <;> decide

end Action

end Trackpad
