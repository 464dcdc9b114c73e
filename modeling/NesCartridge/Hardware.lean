/-
  NesCartridge.Hardware

  An emulated board: its mapper chip and the memories behind it, as the CPU and PPU buses of the
  console see them. Addresses below `$2000` are pattern memory, `$6000`–`$7FFF` is the work RAM
  or what the chip puts there, and everything else belongs to the chip.
-/
import NesCartridge.Chip
import NesCartridge.Memory.Chr

namespace NesCartridge

structure Hardware where
  chip : Chip
  prg : Memory
  chr : Chr
  wram : Memory

/-! ## Work RAM -/

/-- Place of an address in the work RAM. -/
def wramPlace (addr : UInt16) : Nat :=
  (addr - 0x6000).toNat

namespace Memory

/-- The byte of a work RAM at an address; there is none past its end. -/
def wramRead (mem : Memory) (addr : UInt16) : UInt8 :=
  mem.getD (wramPlace addr) 0

/-- Store a byte in a work RAM. -/
def wramWrite (mem : Memory) (addr : UInt16) (data : UInt8) : Memory :=
  mem.setIfInBounds (wramPlace addr) data

@[simp] theorem size_wramWrite (mem : Memory) (addr : UInt16) (data : UInt8) :
    (mem.wramWrite addr data).size = mem.size :=
  Array.size_setIfInBounds

end Memory

/-! ## The board -/

namespace Hardware

/-- The board at power-on, with its memories fitted and its work RAM cleared. -/
def powerOn (board : Board) (prg : Memory) (chr : Chr) (solder : Mirroring) : Hardware where
  chip := .powerOn board solder
  prg
  chr
  wram := Array.replicate (Chip.powerOn board solder).wramSize 0

/-- The byte of pattern memory at an address. -/
def readChr (hw : Hardware) (addr : UInt16) : UInt8 :=
  let ref := hw.chip.chrRef addr
  hw.chr.read ref.bank ref.size addr.toNat

/-- Where a CPU access at or above `$2000` ends up. -/
def cpuTarget (hw : Hardware) (addr : UInt16) : CpuTarget :=
  hw.chip.cpuTarget hw.prg.size hw.wram.size addr

/-- What the CPU reads from the cartridge. -/
def readCpu (hw : Hardware) (addr : UInt16) : UInt8 :=
  match hw.cpuTarget addr with
  | .openBus => openBus addr
  | .wram _ => hw.wram.wramRead addr
  | .prg ref => hw.prg.banked ref.bank ref.size addr.toNat

/-- Reading has no effect on the board; a PPU access is followed by `fetched`. -/
def read (hw : Hardware) (addr : UInt16) : UInt8 :=
  if addr.toNat < 0x2000 then hw.readChr addr else hw.readCpu addr

def writeChr (hw : Hardware) (addr : UInt16) (data : UInt8) : Hardware :=
  let ref := hw.chip.chrRef addr
  { hw with chr := hw.chr.write ref.bank ref.size addr.toNat data }

def storeWram (hw : Hardware) (addr : UInt16) (data : UInt8) : Hardware :=
  { hw with wram := hw.wram.wramWrite addr data }

/-- The work RAM takes a byte only while the chip gives it the write line. -/
def writeWram (hw : Hardware) (addr : UInt16) (data : UInt8) : Hardware :=
  match hw.cpuTarget addr with
  | .wram true => hw.storeWram addr data
  | _ => hw

/-- A register write. With bus conflicts the chip sees only the bits that the ROM drives too. -/
def writeChip (hw : Hardware) (addr : UInt16) (data : UInt8) : Hardware :=
  -- The ROM byte is the one mapped before the write.
  let seen := if hw.chip.busConflicts then data &&& hw.readCpu addr else data
  { hw with chip := hw.chip.write addr seen }

def write (hw : Hardware) (addr : UInt16) (data : UInt8) : Hardware :=
  if addr.toNat < 0x2000 then hw.writeChr addr data
  else if inWram addr then hw.writeWram addr data
  else hw.writeChip addr data

/-- The PPU accessed pattern memory at this address. -/
def fetched (hw : Hardware) (addr : UInt16) : Hardware :=
  { hw with chip := hw.chip.fetched addr }

/-- A CPU cycle passed. -/
def clock (hw : Hardware) : Hardware :=
  { hw with chip := hw.chip.clock }

def irq (hw : Hardware) : Bool :=
  hw.chip.irq

def mirroring (hw : Hardware) : Mirroring :=
  hw.chip.mirroring

end Hardware

end NesCartridge
