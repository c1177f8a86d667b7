/-!
# Value — structured data as it was written

A `Value` keeps what a reader needs to decide for itself what a number or a text stands for. A
`Numeral` keeps the digits of a number. A text whose escapes name half of a surrogate pair denotes
no characters; it is kept as `none`, so that a reader which ignores the text need not refuse it.
-/

namespace Trackpad.Json

/-- A number as it was written. -/
structure Numeral where
  /-- It has a minus sign. -/
  negative : Bool
  /-- The digits before the point, the leading one first. -/
  whole : List Nat
  /-- The digits after the point, if there is one. -/
  fraction : Option (List Nat)
  /-- The power of ten, if one is written. -/
  exponent : Option Int
deriving DecidableEq

/-- A value of any kind. -/
inductive Value where
  | null
  | truth (b : Bool)
  | number (n : Numeral)
  | text (t : Option String)
  | array (items : List Value)
  | object (members : List (Option String × Value))

end Trackpad.Json
