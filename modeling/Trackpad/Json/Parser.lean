import Trackpad.Json.Value

/-!
# Parser — from text to a value

The grammar is the strict one: four blank characters, no leading zeros, no trailing commas, no
control characters inside a text, and nothing after the value. `parse?` reads a whole text. Inside,
every reader takes the characters ahead and gives what it read and what is left. Values nest, so
their readers carry fuel; two units for every character are always enough, because of two calls in a
row at least one takes a character.
-/

namespace Trackpad.Json

/-- Space, tab, line feed and carriage return. -/
def isBlank (c : Char) : Bool := c == ' ' || c == '\t' || c == '\n' || c == '\r'

/-- Leaves out the blank characters ahead. -/
def skipBlank (cs : List Char) : List Char := cs.dropWhile isBlank

/-- The digits ahead, and what follows them. -/
def digits (cs : List Char) : List Nat × List Char :=
  ((cs.takeWhile Char.isDigit).map fun c => c.toNat - '0'.toNat, cs.dropWhile Char.isDigit)

/-- The number that some digits are written for. -/
def natOfDigits (ds : List Nat) : Nat := ds.foldl (fun n d => 10 * n + d) 0

/-- The digits before the point: one zero, or some that do not begin with one. -/
def whole? (cs : List Char) : Option (List Nat × List Char) :=
  let read := digits cs
  match read.1 with
  | [] => none
  | 0 :: _ :: _ => none
  | _ => some read

/-- The point and the digits after it, if there is a point. -/
def fraction? : List Char → Option (Option (List Nat) × List Char)
  | '.' :: rest =>
    let read := digits rest
    if read.1.isEmpty then none else some (some read.1, read.2)
  | cs => some (none, cs)

/-- The digits of a power of ten, after its sign. -/
def exponentDigits? (negative : Bool) (cs : List Char) : Option (Option Int × List Char) :=
  let read := digits cs
  let size : Int := natOfDigits read.1
  if read.1.isEmpty then none else some (some (if negative then -size else size), read.2)

/-- The power of ten after `e`, if there is an `e`. -/
def exponent? : List Char → Option (Option Int × List Char)
  | c :: rest =>
    if c = 'e' ∨ c = 'E' then
      match rest with
      | '-' :: ds => exponentDigits? true ds
      | '+' :: ds => exponentDigits? false ds
      | ds => exponentDigits? false ds
    else some (none, c :: rest)
  | [] => some (none, [])

/-- A number without its sign. -/
def unsigned? (negative : Bool) (cs : List Char) : Option (Numeral × List Char) := do
  let whole ← whole? cs
  let fraction ← fraction? whole.2
  let exponent ← exponent? fraction.2
  return (⟨negative, whole.1, fraction.1, exponent.1⟩, exponent.2)

/-- A number. -/
def numeral? : List Char → Option (Numeral × List Char)
  | '-' :: rest => unsigned? true rest
  | cs => unsigned? false cs

/-- A piece of a text: a character, or a unit of sixteen bits that an escape names. -/
inductive Piece where
  | char (c : Char)
  | unit (n : Nat)
deriving DecidableEq

/-- The value of a digit in base sixteen. -/
def hexDigit? (c : Char) : Option Nat :=
  if '0' ≤ c ∧ c ≤ '9' then some (c.toNat - '0'.toNat)
  else if 'a' ≤ c ∧ c ≤ 'f' then some (c.toNat - 'a'.toNat + 10)
  else if 'A' ≤ c ∧ c ≤ 'F' then some (c.toNat - 'A'.toNat + 10)
  else none

/-- The value of four digits in base sixteen. -/
def hexUnit? (a b c d : Char) : Option Nat := do
  return (((← hexDigit? a) * 16 + (← hexDigit? b)) * 16 + (← hexDigit? c)) * 16 + (← hexDigit? d)

/-- The character that a letter after a backslash stands for. -/
def shortEscape? : Char → Option Char
  | '"' => some '"'
  | '\\' => some '\\'
  | '/' => some '/'
  | 'b' => some '\x08'
  | 'f' => some '\x0c'
  | 'n' => some '\n'
  | 'r' => some '\r'
  | 't' => some '\t'
  | _ => none

/-- A further piece before those already read. -/
def withPiece (p : Piece) (read : List Piece × List Char) : List Piece × List Char :=
  (p :: read.1, read.2)

/-- The pieces of a text up to the closing quotation mark. -/
def pieces? : List Char → Option (List Piece × List Char)
  | [] => none
  | '"' :: rest => some ([], rest)
  | '\\' :: 'u' :: a :: b :: c :: d :: rest => do
    let n ← hexUnit? a b c d
    return withPiece (.unit n) (← pieces? rest)
  | '\\' :: letter :: rest => do
    let c ← shortEscape? letter
    return withPiece (.char c) (← pieces? rest)
  | c :: rest => if c.toNat < 0x20 then none else (pieces? rest).map (withPiece (.char c))

/-- The first half of a surrogate pair. -/
def isLeading (n : Nat) : Bool := 0xD800 ≤ n && n < 0xDC00

/-- The second half of a surrogate pair. -/
def isTrailing (n : Nat) : Bool := 0xDC00 ≤ n && n < 0xE000

/-- The characters of a text, unless half of a surrogate pair stands alone. -/
def characters? : List Piece → Option (List Char)
  | [] => some []
  | .char c :: rest => (characters? rest).map (c :: ·)
  | .unit n :: .unit m :: rest =>
    if isLeading n then
      if isTrailing m then
        (characters? rest).map (Char.ofNat (0x10000 + (n - 0xD800) * 0x400 + (m - 0xDC00)) :: ·)
      else none
    else if isTrailing n then none
    else (characters? (.unit m :: rest)).map (Char.ofNat n :: ·)
  | .unit n :: rest =>
    if isLeading n || isTrailing n then none
    else (characters? rest).map (Char.ofNat n :: ·)

/-- A text, after its opening quotation mark. -/
def text? (cs : List Char) : Option (Option String × List Char) :=
  (pieces? cs).map fun read => ((characters? read.1).map String.ofList, read.2)

/-- A value that is one of three words. -/
def word? (cs : List Char) : Option (Value × List Char) :=
  match "null".toList.isPrefixOf? cs, "true".toList.isPrefixOf? cs,
    "false".toList.isPrefixOf? cs with
  | some rest, _, _ => some (.null, rest)
  | _, some rest, _ => some (.truth true, rest)
  | _, _, some rest => some (.truth false, rest)
  | _, _, _ => none

mutual

/-- The value ahead. -/
def value? : Nat → List Char → Option (Value × List Char)
  | 0, _ => none
  | fuel + 1, cs =>
    match cs with
    | '"' :: rest => (text? rest).map fun read => (.text read.1, read.2)
    | '[' :: rest =>
      match skipBlank rest with
      | ']' :: after => some (.array [], after)
      | inside => (items? fuel inside).map fun read => (.array read.1, read.2)
    | '{' :: rest =>
      match skipBlank rest with
      | '}' :: after => some (.object [], after)
      | inside => (members? fuel inside).map fun read => (.object read.1, read.2)
    | other => match word? other with
      | some read => some read
      | none => (numeral? other).map fun read => (.number read.1, read.2)

/-- The items of an array up to its closing bracket. -/
def items? : Nat → List Char → Option (List Value × List Char)
  | 0, _ => none
  | fuel + 1, cs => do
    let first ← value? fuel (skipBlank cs)
    match skipBlank first.2 with
    | ']' :: rest => some ([first.1], rest)
    | ',' :: rest => (items? fuel rest).map fun read => (first.1 :: read.1, read.2)
    | _ => none

/-- The members of an object up to its closing brace. -/
def members? : Nat → List Char → Option (List (Option String × Value) × List Char)
  | 0, _ => none
  | fuel + 1, cs =>
    match skipBlank cs with
    | '"' :: afterMark => do
      let key ← text? afterMark
      match skipBlank key.2 with
      | ':' :: afterColon => do
        let first ← value? fuel (skipBlank afterColon)
        match skipBlank first.2 with
        | '}' :: rest => some ([(key.1, first.1)], rest)
        | ',' :: rest => (members? fuel rest).map fun read => ((key.1, first.1) :: read.1, read.2)
        | _ => none
      | _ => none
    | _ => none

end

/-- The value that a whole text is written for. -/
def parse? (source : String) : Option Value := do
  let cs := source.toList
  let read ← value? (2 * cs.length + 2) (skipBlank cs)
  if (skipBlank read.2).isEmpty then some read.1 else none

end Trackpad.Json
