/-
  NesCartridge.Chip.Mmc1

  MMC1: four 5-bit registers loaded one bit at a time. Five writes with bit 7 clear shift in a
  value, low bit first, and the address of the fifth names the register; a write with bit 7 set
  drops the bits so far and goes back to the mode with a fixed last PRG bank.
-/
import NesCartridge.Chip.Target
import NesCartridge.Mirroring

namespace NesCartridge

structure Mmc1 where
  /-- Bits collected so far, the latest on top. -/
  shift : UInt8 := 0
  /-- How many bits have been collected. -/
  count : Nat := 0
  /-- Bits 0–1 mirroring, 2–3 PRG mode, 4 CHR mode. -/
  control : UInt8 := 0x0C
  chr0 : UInt8 := 0
  chr1 : UInt8 := 0
  /-- Bits 0–3 PRG bank, bit 4 disables the work RAM. -/
  prg : UInt8 := 0
  deriving DecidableEq

namespace Mmc1

/-- Load a register; address bits 13 and 14 choose it. -/
def load (chip : Mmc1) (addr : UInt16) (value : UInt8) : Mmc1 :=
  match addr.toNat / 0x2000 % 4 with
  | 0 => { chip with control := value }
  | 1 => { chip with chr0 := value }
  | 2 => { chip with chr1 := value }
  | _ => { chip with prg := value }

/-- One bit enters the shift register; the fifth loads a register and empties it. -/
def shiftIn (chip : Mmc1) (addr : UInt16) (data : UInt8) : Mmc1 :=
  -- Bits enter on top and move down, so the first of five ends as bit 0.
  let shift := (chip.shift >>> 1) ||| ((data &&& 1) <<< 4)
  if chip.count + 1 < 5 then
    { chip with shift, count := chip.count + 1 }
  else
    { chip.load addr (shift &&& 0x1F) with shift := 0, count := 0 }

/-- Drop the collected bits and fix the last PRG bank. -/
def dropBits (chip : Mmc1) : Mmc1 :=
  { chip with shift := 0, count := 0, control := chip.control ||| 0x0C }

def write (chip : Mmc1) (addr : UInt16) (data : UInt8) : Mmc1 :=
  if addr.toNat < 0x8000 then chip
  else if data &&& 0x80 ≠ 0 then chip.dropBits
  else chip.shiftIn addr data

def wramEnabled (chip : Mmc1) : Bool :=
  chip.prg &&& 0x10 == 0

/-- 16 KiB bank at a PRG address. -/
def prgBank (chip : Mmc1) (prgSize : Nat) (addr : UInt16) : Nat :=
  let bank := chip.prg.toNat % 16
  let upper := 0xC000 ≤ addr.toNat
  match chip.control.toNat / 4 % 4 with
  -- Fixed first bank, fixed last bank, or one 32 KiB bank.
  | 2 => if upper then bank else 0
  | 3 => if upper then bankCount prgSize 0x4000 - 1 else bank
  | _ => bank / 2 * 2 + (if upper then 1 else 0)

def cpuTarget (chip : Mmc1) (prgSize : Nat) (addr : UInt16) : CpuTarget :=
  if inWram addr then
    if chip.wramEnabled then .wram true else .openBus
  else if 0x8000 ≤ addr.toNat then .prg ⟨chip.prgBank prgSize addr, 0x4000⟩
  else .openBus

/-- 4 KiB bank at a pattern address. -/
def chrBank (chip : Mmc1) (addr : UInt16) : Nat :=
  let upper := 0x1000 ≤ addr.toNat
  if chip.control &&& 0x10 == 0 then
    chip.chr0.toNat / 2 * 2 + (if upper then 1 else 0)
  else if upper then chip.chr1.toNat
  else chip.chr0.toNat

def mirroring (chip : Mmc1) : Mirroring :=
  match chip.control.toNat % 4 with
  | 0 => .oneScreenLower
  | 1 => .oneScreenUpper
  | 2 => .vertical
  | _ => .horizontal

end Mmc1

end NesCartridge
