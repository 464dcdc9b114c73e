/-
  NesCartridge.Chip.Mmc2

  MMC2 and MMC4: each half of pattern memory has two CHR banks, and a latch that the PPU sets by
  fetching tile `$FD` or `$FE` says which one shows. The two chips differ in the size of the PRG
  window, in the work RAM, and in how closely the low half's trigger addresses are decoded.
-/
import NesCartridge.Chip.Target
import NesCartridge.Mirroring
import NesCartridge.Registry.Board

namespace NesCartridge

/-- The two banks of one half of pattern memory and the latch between them. -/
structure PatternHalf where
  fd : UInt8 := 0
  fe : UInt8 := 0
  latch : TileLatch := .fe
  deriving DecidableEq

/-- The bank that shows. -/
def PatternHalf.current (half : PatternHalf) : UInt8 :=
  match half.latch with
  | .fd => half.fd
  | .fe => half.fe

structure Mmc2 where
  /-- The chip is an MMC4: 16 KiB PRG window, work RAM, trigger addresses by tile row. -/
  isMmc4 : Bool
  prg : UInt8 := 0
  low : PatternHalf := {}
  high : PatternHalf := {}
  mirroring : Mirroring := .vertical

namespace Mmc2

/-- One register per 4 KiB of address space from `$A000`. -/
def write (chip : Mmc2) (addr : UInt16) (data : UInt8) : Mmc2 :=
  match addr.toNat / 0x1000 with
  | 0xA => { chip with prg := data &&& 0x0F }
  | 0xB => { chip with low := { chip.low with fd := data &&& 0x1F } }
  | 0xC => { chip with low := { chip.low with fe := data &&& 0x1F } }
  | 0xD => { chip with high := { chip.high with fd := data &&& 0x1F } }
  | 0xE => { chip with high := { chip.high with fe := data &&& 0x1F } }
  | 0xF => { chip with mirroring := if data &&& 1 == 1 then .horizontal else .vertical }
  | _ => chip

/-- Latch state that an access to the low half sets, if it is a trigger. -/
def lowTrigger? (chip : Mmc2) (offset : Nat) : Option TileLatch :=
  -- MMC2 decodes the low half's trigger down to the byte, MMC4 down to the row.
  let offset := if chip.isMmc4 then offset / 8 * 8 else offset
  if offset = 0x0FD8 then some .fd
  else if offset = 0x0FE8 then some .fe
  else none

/-- Latch state that an access to the high half sets, if it is a trigger. -/
def highTrigger? (offset : Nat) : Option TileLatch :=
  if offset / 8 * 8 = 0x1FD8 then some .fd
  else if offset / 8 * 8 = 0x1FE8 then some .fe
  else none

/-- The PPU accessed pattern memory. -/
def fetched (chip : Mmc2) (addr : UInt16) : Mmc2 :=
  let offset := addr.toNat % 0x2000
  match chip.lowTrigger? offset, highTrigger? offset with
  | some latch, _ => { chip with low := { chip.low with latch } }
  | none, some latch => { chip with high := { chip.high with latch } }
  | none, none => chip

/-- The PRG bank at a PRG address: a window at `$8000`, and the end of the ROM above it. -/
def prgRef (chip : Mmc2) (prgSize : Nat) (addr : UInt16) : BankRef :=
  if chip.isMmc4 then
    ⟨if addr.toNat < 0xC000 then chip.prg.toNat else bankCount prgSize 0x4000 - 1, 0x4000⟩
  else if addr.toNat < 0xA000 then ⟨chip.prg.toNat, 0x2000⟩
  -- The last three banks; a smaller ROM counts from bank 0.
  else ⟨bankCount prgSize 0x2000 - 4 + (addr.toNat - 0x8000) / 0x2000, 0x2000⟩

/-- An MMC2 has no work RAM, and its range answers nothing. -/
def cpuTarget (chip : Mmc2) (prgSize wramSize : Nat) (addr : UInt16) : CpuTarget :=
  if inWram addr then
    if 0 < wramSize then .wram true else .openBus
  else if 0x8000 ≤ addr.toNat then .prg (chip.prgRef prgSize addr)
  else .openBus

/-- The half of pattern memory that an address lies in. -/
def half (chip : Mmc2) (addr : UInt16) : PatternHalf :=
  if addr.toNat / 0x1000 % 2 = 0 then chip.low else chip.high

/-- 4 KiB bank at a pattern address. -/
def chrBank (chip : Mmc2) (addr : UInt16) : Nat :=
  (chip.half addr).current.toNat

end Mmc2

end NesCartridge
