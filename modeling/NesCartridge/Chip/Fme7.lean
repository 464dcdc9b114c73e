/-
  NesCartridge.Chip.Fme7

  Sunsoft FME-7: a command register and sixteen parameters for CHR and PRG banks, the region at
  `$6000`, mirroring, and a 16-bit counter of CPU cycles.
-/
import NesCartridge.Chip.Target
import NesCartridge.Mirroring

namespace NesCartridge

structure Fme7 where
  /-- The parameter written next. -/
  command : UInt8 := 0
  chr : Vector UInt8 8 := Vector.replicate 8 0
  /-- Bit 7 enables the RAM at `$6000`, bit 6 puts RAM there, bits 0–5 are the ROM bank. -/
  low : UInt8 := 0
  /-- Banks at `$8000`, `$A000` and `$C000`. -/
  prg : Vector UInt8 3 := Vector.replicate 3 0
  /-- Two bits: vertical, horizontal, one-screen lower, one-screen upper. -/
  nametables : UInt8 := 0
  irqEnabled : Bool := false
  irqCounting : Bool := false
  irqCounter : UInt16 := 0
  irqPending : Bool := false

namespace Fme7

/-- Store a parameter. A write to the IRQ control also takes a pending IRQ back. -/
def load (chip : Fme7) (data : UInt8) : Fme7 :=
  let command := chip.command.toNat
  if h : command < 8 then { chip with chr := chip.chr.set command data h }
  else if command = 8 then { chip with low := data }
  else if h : command - 9 < 3 then
    { chip with prg := chip.prg.set (command - 9) (data &&& 0x3F) h }
  else if command = 0xC then { chip with nametables := data &&& 0x03 }
  else if command = 0xD then
    { chip with
      irqEnabled := data &&& 0x01 != 0
      irqCounting := data &&& 0x80 != 0
      irqPending := false }
  -- The counter is loaded in two halves, while it may be running.
  else if command = 0xE then
    { chip with irqCounter := UInt16.ofNat (chip.irqCounter.toNat / 256 * 256 + data.toNat) }
  else
    { chip with irqCounter := UInt16.ofNat (chip.irqCounter.toNat % 256 + data.toNat * 256) }

def write (chip : Fme7) (addr : UInt16) (data : UInt8) : Fme7 :=
  if addr.toNat < 0x8000 then chip
  else if addr.toNat < 0xA000 then { chip with command := data &&& 0x0F }
  else if addr.toNat < 0xC000 then chip.load data
  else chip

/-- A CPU cycle passed: the counter steps down, and its wrap below zero raises the IRQ. -/
def clock (chip : Fme7) : Fme7 :=
  if chip.irqCounting then
    let counter := chip.irqCounter - 1
    { chip with
      irqCounter := counter
      irqPending := chip.irqPending || (counter = 0xFFFF && chip.irqEnabled) }
  else chip

/-- What the region at `$6000` shows. -/
def lowTarget (chip : Fme7) : CpuTarget :=
  -- The ROM needs no enable bit.
  if chip.low &&& 0x40 == 0 then .prg ⟨chip.low.toNat % 64, 0x2000⟩
  else if chip.low &&& 0x80 == 0 then .openBus
  else .wram true

def cpuTarget (chip : Fme7) (prgSize : Nat) (addr : UInt16) : CpuTarget :=
  if inWram addr then chip.lowTarget
  else if addr.toNat < 0x8000 then .openBus
  else
    let slot := (addr.toNat - 0x8000) / 0x2000
    if h : slot < 3 then .prg ⟨chip.prg[slot].toNat, 0x2000⟩
    else .prg ⟨bankCount prgSize 0x2000 - 1, 0x2000⟩

/-- 1 KiB bank at a pattern address. -/
def chrBank (chip : Fme7) (addr : UInt16) : Nat :=
  (chip.chr.get (Fin.ofNat 8 (addr.toNat / 0x400))).toNat

def mirroring (chip : Fme7) : Mirroring :=
  match chip.nametables.toNat with
  | 0 => .vertical
  | 1 => .horizontal
  | 2 => .oneScreenLower
  | _ => .oneScreenUpper

end Fme7

end NesCartridge
