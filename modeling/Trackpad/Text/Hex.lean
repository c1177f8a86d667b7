/-!
# Hex — numbers in base sixteen
-/

namespace Trackpad.Text

/-- A number in base sixteen, with small letters. -/
def hex (n : Nat) : String := String.ofList (Nat.toDigits 16 n)

/-- A number in base sixteen, with capital letters. -/
def hexCapital (n : Nat) : String := String.ofList ((Nat.toDigits 16 n).map Char.toUpper)

end Trackpad.Text
