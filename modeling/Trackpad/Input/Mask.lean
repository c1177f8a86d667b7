/-!
# Mask — sets of bits with declared members

A `Mask declared` keeps all 32 bits it was given, the undeclared ones too, so that a value of the
platform passes through untouched. `declared` only matters to the two checked ways in:
`Mask.ofBits?` refuses undeclared bits and `Mask.truncate` drops them.
-/

namespace Trackpad

/-- A word of bits, of which those in `declared` have a meaning. -/
structure Mask (declared : UInt32) where
  bits : UInt32
deriving DecidableEq

namespace Mask

variable {declared : UInt32}

/-- No bit is set. -/
def empty : Mask declared := ⟨0⟩

/-- The mask of these bits, unless an undeclared one is set. -/
def ofBits? (bits : UInt32) : Option (Mask declared) :=
  if bits &&& declared = bits then some ⟨bits⟩ else none

/-- The mask of the declared bits among these. -/
def truncate (bits : UInt32) : Mask declared := ⟨bits &&& declared⟩

/-- Whether no bit at all is set. -/
def isEmpty (m : Mask declared) : Bool := m.bits == 0

/-- Whether every bit of `part` is set in `m`. -/
def contains (m part : Mask declared) : Bool := m.bits &&& part.bits == part.bits

theorem ofBits?_eq_some_iff {bits : UInt32} {m : Mask declared} :
    ofBits? bits = some m ↔ bits &&& declared = bits ∧ m = ⟨bits⟩ := by
  unfold ofBits?
  split
  · rename_i h
    exact ⟨fun e => ⟨h, (Option.some.inj e).symm⟩, fun e => congrArg some e.2.symm⟩
  · rename_i h
    exact ⟨nofun, fun e => absurd e.1 h⟩

/-- An accepted word is its own truncation. -/
theorem truncate_eq_of_ofBits? {bits : UInt32} {m : Mask declared}
    (h : ofBits? bits = some m) : truncate bits = m := by
  obtain ⟨hb, rfl⟩ := ofBits?_eq_some_iff.1 h
  simp [truncate, hb]

end Mask

/-- The buttons held while a sample was taken. -/
abbrev Buttons := Mask 7

namespace Buttons

/-- The physical click of the pad. -/
def primary : Buttons := ⟨1⟩

/-- The second button. -/
def secondary : Buttons := ⟨2⟩

/-- The third button. -/
def tertiary : Buttons := ⟨4⟩

end Buttons

/-- The raw flags of a sample. Every bit is declared; one has a meaning here. -/
abbrev SampleFlags := Mask 0xFFFFFFFF

namespace SampleFlags

/-- The platform reported the contact as a two-finger gesture. -/
def twoFinger : SampleFlags := ⟨0x40⟩

end SampleFlags

end Trackpad
