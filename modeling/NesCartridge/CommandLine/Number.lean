/-
  NesCartridge.CommandLine.Number

  Numbers on the command line: decimal, or hexadecimal after `$` or `0x`, with an optional plus
  sign in front of the digits.
-/

namespace NesCartridge.CommandLine.Number

/-- Value of a digit; letters count in either case. -/
def digit? (radix : Nat) (c : Char) : Option Nat :=
  let value? :=
    if '0' ≤ c ∧ c ≤ '9' then some (c.toNat - '0'.toNat)
    else if 'a' ≤ c ∧ c ≤ 'z' then some (c.toNat - 'a'.toNat + 10)
    else if 'A' ≤ c ∧ c ≤ 'Z' then some (c.toNat - 'A'.toNat + 10)
    else none
  value?.filter (· < radix)

/-- Value of a list of digits, continuing from `acc`. -/
def digitsFrom? (radix : Nat) (acc : Nat) : List Char → Option Nat
  | [] => some acc
  | c :: rest => do
    let value ← digit? radix c
    digitsFrom? radix (acc * radix + value) rest

/-- Value of one or more digits. -/
def digits? (radix : Nat) : List Char → Option Nat
  | [] => none
  | digits => digitsFrom? radix 0 digits

/-- Value of digits with an optional plus sign in front. -/
def unsigned? (radix : Nat) : List Char → Option Nat
  | '+' :: digits => digits? radix digits
  | digits => digits? radix digits

/-- Value of a number in any of its forms. -/
def value? : List Char → Option Nat
  | '$' :: digits => unsigned? 16 digits
  | '0' :: 'x' :: digits => unsigned? 16 digits
  | digits => unsigned? 10 digits

/-- Read a number below `limit`. -/
def read? (limit : Nat) (text : String) : Option Nat :=
  (value? text.toList).filter (· < limit)

end NesCartridge.CommandLine.Number
