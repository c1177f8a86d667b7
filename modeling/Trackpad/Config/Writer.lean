import Trackpad.Config.Basic

/-!
# Writer — a configuration as structured text

`Config.write` writes an object with every field, without blanks. A slop that is no finite number
has no written form and becomes `null`.
-/

namespace Trackpad

/-- A float as structured text. -/
def Json.writeFloat (x : Float) : String :=
  if x.isFinite then Decimal.Style.stored.write x else "null"

/-- A duration as an object of its two fields. -/
def Duration.write (d : Duration) : String :=
  "\x7b\"secs\":" ++ toString d.secs ++ ",\"nanos\":" ++ toString d.nanos ++ "\x7d"

/-- A configuration as an object of its fields. -/
def Config.write (c : Config) : String :=
  "\x7b\"touch_slop\":" ++ Json.writeFloat c.touchSlop ++
    ",\"double_tap_timeout\":" ++ c.doubleTapTimeout.write ++
    ",\"history_capacity\":" ++ toString c.historyCapacity ++ "\x7d"

end Trackpad
