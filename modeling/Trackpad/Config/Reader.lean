import Trackpad.Config.Basic
import Trackpad.Json.Field

/-!
# Reader — a configuration from structured text

`Config.read?` accepts what `Config.write` writes for a finite slop, and more: the fields may come
in any order or be left out, unknown fields are ignored, and an array gives the fields by position.
A field that is given twice, a value of the wrong kind, and text that is no value at all are
refused. Nothing is checked beyond that; whether the values are usable is for `Config.fault?` to
say.
-/

namespace Trackpad

namespace Duration

/-- A duration of its two numbers. -/
def ofNumbers? (secs nanos : Json.Value) : Option Duration := do
  carry? (← secs.natural? 0x10000000000000000) (← nanos.natural? 0x100000000)

/-- A duration of an object with exactly the fields `secs` and `nanos`, or of an array of the
two. -/
def ofJson? : Json.Value → Option Duration
  | .object members =>
    if members.all fun m => m.1 == some "secs" || m.1 == some "nanos" then
      match Json.Value.named "secs" members, Json.Value.named "nanos" members with
      | [secs], [nanos] => ofNumbers? secs nanos
      | _, _ => none
    else none
  | .array [secs, nanos] => ofNumbers? secs nanos
  | _ => none

end Duration

namespace Config

/-- A configuration of those of its fields that are given. -/
def ofFields? (slop timeout capacity : Option Json.Value) : Option Config := do
  let standard : Config := {}
  return {
    touchSlop := ← Json.Value.readOr standard.touchSlop Json.Value.float? slop
    doubleTapTimeout := ← Json.Value.readOr standard.doubleTapTimeout Duration.ofJson? timeout
    historyCapacity :=
      ← Json.Value.readOr standard.historyCapacity (Json.Value.natural? 0x10000000000000000)
        capacity }

/-- A configuration of an object or of an array. The keys of an object must be proper texts, the
unknown ones too. -/
def ofJson? : Json.Value → Option Config
  | .object members =>
    if members.all fun m => m.1.isSome then do
      ofFields? (← Json.Value.field? "touch_slop" members)
        (← Json.Value.field? "double_tap_timeout" members)
        (← Json.Value.field? "history_capacity" members)
    else none
  | .array items => if items.length ≤ 3 then ofFields? items[0]? items[1]? items[2]? else none
  | _ => none

/-- The configuration that a text is written for. -/
def read? (source : String) : Option Config := (Json.parse? source).bind ofJson?

end Config

end Trackpad
