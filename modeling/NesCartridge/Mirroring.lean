/-
  NesCartridge.Mirroring

  How a cartridge board wires the nametable memory: the five wirings, the set of wirings a
  board can switch between, and the cell of nametable memory that a PPU address reaches under
  each of them.
-/

namespace NesCartridge

/-- Wiring of the four nametables onto the nametable memory. -/
inductive Mirroring where
  | horizontal
  | vertical
  | oneScreenLower
  | oneScreenUpper
  | fourScreen
  deriving DecidableEq

namespace Mirroring

/-- Name as printed in listings. -/
def name : Mirroring → String
  | horizontal => "Horizontal"
  | vertical => "Vertical"
  | oneScreenLower => "OneScreenLower"
  | oneScreenUpper => "OneScreenUpper"
  | fourScreen => "FourScreen"

/-- Every wiring. -/
def all : List Mirroring :=
  [horizontal, vertical, oneScreenLower, oneScreenUpper, fourScreen]

/-- Cell of nametable memory behind a PPU address at or above `$2000`; `$3000` and up repeat the
four nametables. -/
def cell (mode : Mirroring) (addr : UInt16) : Nat :=
  let inTables := (addr.toNat - 0x2000) % 0x1000
  let table := inTables / 0x400
  let offset := inTables % 0x400
  match mode with
  | vertical => table % 2 * 0x400 + offset
  | horizontal => table / 2 * 0x400 + offset
  | oneScreenLower => offset
  | oneScreenUpper => offset + 0x400
  | fourScreen => inTables

/-- Nametable memory of 4 KiB holds every cell. -/
theorem cell_lt (mode : Mirroring) (addr : UInt16) : mode.cell addr < 0x1000 := by
  cases mode <;> simp only [cell] <;> omega

end Mirroring

/-! ## Sets of selectable wirings -/

/-- The wirings a board can select. Four-screen memory is wired on the board and never
selected, so it has no place here. -/
structure MirroringSet where
  vertical : Bool := false
  horizontal : Bool := false
  oneScreenLower : Bool := false
  oneScreenUpper : Bool := false
  deriving DecidableEq

namespace MirroringSet

/-- Wiring soldered on the board: nothing to select. -/
def empty : MirroringSet := {}

def twoScreen : MirroringSet := { vertical := true, horizontal := true }

def oneScreen : MirroringSet := { oneScreenLower := true, oneScreenUpper := true }

def all : MirroringSet :=
  { vertical := true, horizontal := true, oneScreenLower := true, oneScreenUpper := true }

/-- The set holding one wiring, if it can be selected at all. -/
def single? : Mirroring → Option MirroringSet
  | .vertical => some { vertical := true }
  | .horizontal => some { horizontal := true }
  | .oneScreenLower => some { oneScreenLower := true }
  | .oneScreenUpper => some { oneScreenUpper := true }
  | .fourScreen => none

def contains (set : MirroringSet) : Mirroring → Bool
  | .vertical => set.vertical
  | .horizontal => set.horizontal
  | .oneScreenLower => set.oneScreenLower
  | .oneScreenUpper => set.oneScreenUpper
  | .fourScreen => false

/-- The members, two-screen wirings first. -/
def modes (set : MirroringSet) : List Mirroring :=
  [.vertical, .horizontal, .oneScreenLower, .oneScreenUpper].filter set.contains

/-- A board with at least two members has a mirroring register worth testing. -/
def hasChoice (set : MirroringSet) : Bool :=
  set.modes.length > 1

/-! ### Bit form: vertical is bit 0, then horizontal, one-screen lower, one-screen upper -/

def toBits (set : MirroringSet) : UInt8 :=
  (if set.vertical then 1 else 0) ||| (if set.horizontal then 2 else 0)
    ||| (if set.oneScreenLower then 4 else 0) ||| (if set.oneScreenUpper then 8 else 0)

/-- The set spelled by the four low bits; the others are dropped. -/
def ofLowBits (bits : UInt8) : MirroringSet where
  vertical := bits &&& 1 != 0
  horizontal := bits &&& 2 != 0
  oneScreenLower := bits &&& 4 != 0
  oneScreenUpper := bits &&& 8 != 0

/-- The set spelled by a byte that has no other bit set. -/
def ofBits? (bits : UInt8) : Option MirroringSet :=
  if bits &&& 0xF0 == 0 then some (ofLowBits bits) else none

theorem mem_modes {set : MirroringSet} {mode : Mirroring} :
    mode ∈ set.modes ↔ set.contains mode = true := by
  cases mode <;> simp [modes, contains]

end MirroringSet

end NesCartridge
