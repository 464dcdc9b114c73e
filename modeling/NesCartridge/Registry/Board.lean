/-
  NesCartridge.Registry.Board

  The vocabulary of the board registry: the supported boards, what their registers do, the
  windows they can switch, and the optional features a board may have.
-/

namespace NesCartridge

/-- The supported boards. Each has its own register layout and way of being written. -/
inductive Board where
  | nrom
  | mmc1
  | uxRom
  | cnRom
  | mmc3
  | axRom
  | mmc2
  | mmc4
  | colorDreams
  | action53
  | unrom512
  | bnRom
  | gnRom
  | fme7
  deriving DecidableEq

/-- Every board, in the order of the mapper numbers. -/
def Board.all : List Board :=
  [.nrom, .mmc1, .uxRom, .cnRom, .mmc3, .axRom, .mmc2, .mmc4, .colorDreams, .action53,
    .unrom512, .bnRom, .gnRom, .fme7]

theorem Board.mem_all (board : Board) : board ∈ Board.all := by
  cases board <;> decide

/-! ## Registers -/

/-- What a register does on its board. -/
inductive RegisterRole where
  /-- Mirroring, PRG mode and CHR mode in one. -/
  | control
  /-- Chooses the register that the next data write goes to. -/
  | select
  | data
  | prg
  | chr0
  | chr1
  | chrFd0000
  | chrFe0000
  | chrFd1000
  | chrFe1000
  | mirroring
  | wramProtect
  | irqPeriod
  | irqReload
  | irqDisable
  | irqEnable
  /-- The single latch of a discrete board. -/
  | latch
  deriving DecidableEq

namespace RegisterRole

/-- Every role, in the order of listings. -/
def all : List RegisterRole :=
  [control, select, data, prg, chr0, chr1, chrFd0000, chrFe0000, chrFd1000, chrFe1000,
    mirroring, wramProtect, irqPeriod, irqReload, irqDisable, irqEnable, latch]

/-- Name as printed in listings. -/
def name : RegisterRole → String
  | control => "Control"
  | select => "Select"
  | data => "Data"
  | prg => "Prg"
  | chr0 => "Chr0"
  | chr1 => "Chr1"
  | chrFd0000 => "ChrFd0000"
  | chrFe0000 => "ChrFe0000"
  | chrFd1000 => "ChrFd1000"
  | chrFe1000 => "ChrFe1000"
  | mirroring => "Mirroring"
  | wramProtect => "WramProtect"
  | irqPeriod => "IrqPeriod"
  | irqReload => "IrqReload"
  | irqDisable => "IrqDisable"
  | irqEnable => "IrqEnable"
  | latch => "Latch"

end RegisterRole

/-- A register and the address that listings give for it. -/
structure Register where
  role : RegisterRole
  addr : UInt16
  deriving DecidableEq

/-! ## Windows -/

/-- State of a tile latch: which of the two trigger tiles, `$FD` or `$FE`, was fetched last. -/
inductive TileLatch where
  | fd
  | fe
  deriving DecidableEq

/-- Name as printed in listings. -/
def TileLatch.name : TileLatch → String
  | fd => "Fd"
  | fe => "Fe"

/-- A range of addresses whose bank can be chosen. -/
structure Window where
  base : UInt16
  /-- Length in bytes, and the unit that its banks are counted in. -/
  size : Nat
  /-- Largest bank number that the register can hold. -/
  maxBank : Nat
  /-- A window with a latch shows its bank only while that latch has this state. -/
  latch : Option TileLatch := none
  deriving DecidableEq

/-- Last address inside the window. -/
def Window.last (window : Window) : UInt16 :=
  UInt16.ofNat (window.base.toNat + window.size - 1)

/-- Bytes of memory that the window can show, over all its banks. -/
def Window.reach (window : Window) : Nat :=
  (window.maxBank + 1) * window.size

/-! ## Optional features -/

/-- How a board gates the work RAM at `$6000`–`$7FFF`. -/
inductive WramControl where
  | none
  /-- Always mapped, nothing to switch. -/
  | fixed
  /-- A disable bit in the MMC1 PRG register. -/
  | mmc1
  /-- Enable and write-protect bits of their own. -/
  | mmc3
  /-- Part of the FME-7 command that maps `$6000`. -/
  | fme7
  deriving DecidableEq

/-- What an IRQ counter counts. -/
inductive IrqKind where
  | none
  /-- Rises of PPU address line 12, one per rendered scanline. -/
  | scanline
  | cpuCycle
  deriving DecidableEq

/-- Largest period that the counter can be loaded with. -/
def IrqKind.maxPeriod : IrqKind → Nat
  | none => 0
  | scanline => 256
  | cpuCycle => 65536

end NesCartridge
