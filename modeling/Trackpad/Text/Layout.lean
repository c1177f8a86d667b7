/-!
# Layout — values in words, on one line

The bracketing that every description in this library shares: `Name { field: value }` for a
record, `Name(value)` for a wrapped value, `[a, b]` for a list and `Some(value)` or `None` for what
may be absent.
-/

namespace Trackpad.Text

/-- A list in brackets. -/
def list (items : List String) : String :=
  "[" ++ ", ".intercalate items ++ "]"

/-- A name and the value it wraps. -/
def wrapped (name value : String) : String :=
  name ++ "(" ++ value ++ ")"

/-- What may be absent. -/
def optional : Option String → String
  | some value => wrapped "Some" value
  | none => "None"

/-- The fields of a record, in order. -/
def fields (items : List (String × String)) : List String :=
  items.map fun f => f.1 ++ ": " ++ f.2

/-- A name and the items between its braces. -/
def braced (name : String) (items : List String) : String :=
  name ++ " \x7b " ++ ", ".intercalate items ++ " \x7d"

/-- A record with all its fields. -/
def record (name : String) (items : List (String × String)) : String :=
  braced name (fields items)

/-- A record of which some fields are left out. -/
def recordInPart (name : String) (items : List (String × String)) : String :=
  braced name (fields items ++ [".."])

/-- A truth value. -/
def truth (b : Bool) : String := if b then "true" else "false"

end Trackpad.Text
