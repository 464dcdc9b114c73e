/-
  NesCartridge.Text

  Numbers and columns as the listings and reports print them.
-/

namespace NesCartridge.Text

/-- The last `digits` hexadecimal digits of a number, in capitals. -/
def hex : (digits : Nat) → Nat → List Char
  | 0, _ => []
  | digits + 1, n => hex digits (n / 16) ++ [(Nat.digitChar (n % 16)).toUpper]

/-- A byte as two hexadecimal digits. -/
def byte (b : UInt8) : String := String.ofList (hex 2 b.toNat)

/-- An address as four hexadecimal digits. -/
def addr (a : UInt16) : String := String.ofList (hex 4 a.toNat)

/-- Text at the left of a column. -/
def left (width : Nat) (text : String) : String :=
  text ++ String.ofList (List.replicate (width - text.length) ' ')

/-- Text at the right of a column. -/
def right (width : Nat) (text : String) : String :=
  String.ofList (List.replicate (width - text.length) ' ') ++ text

/-- A size in whole KiB. -/
def kib (bytes : Nat) : String := toString (bytes / 1024)

/-- Truth values in a list. -/
def bools (values : List Bool) : String :=
  "[" ++ ", ".intercalate (values.map fun b => if b then "true" else "false") ++ "]"

end NesCartridge.Text
