/-
  NesCartridge.Chip.Discrete

  Boards built from discrete logic: one latch, written anywhere from `$8000` up, whose fields
  hold the PRG bank, the CHR bank and the one-screen choice.
-/
import NesCartridge.Chip.Target
import NesCartridge.Mirroring
import NesCartridge.Registry.BitField

namespace NesCartridge

structure Discrete where
  layout : LatchLayout
  /-- The ROM drives the data lines during a write too. -/
  busConflicts : Bool
  /-- A 16 KiB PRG window below a fixed last bank, in place of one 32 KiB window. -/
  prg16k : Bool
  solder : Mirroring
  latch : UInt8 := 0

namespace Discrete

def write (chip : Discrete) (addr : UInt16) (data : UInt8) : Discrete :=
  if 0x8000 ≤ addr.toNat then { chip with latch := data } else chip

/-- The PRG bank at a PRG address. -/
def prgRef (chip : Discrete) (prgSize : Nat) (addr : UInt16) : BankRef :=
  let bank := (chip.layout.prg.extract chip.latch).toNat
  if chip.prg16k then
    ⟨if addr.toNat < 0xC000 then bank else bankCount prgSize 0x4000 - 1, 0x4000⟩
  else ⟨bank, 0x8000⟩

def cpuTarget (chip : Discrete) (prgSize : Nat) (addr : UInt16) : CpuTarget :=
  if 0x8000 ≤ addr.toNat then .prg (chip.prgRef prgSize addr) else .openBus

/-- 8 KiB CHR bank. -/
def chrBank (chip : Discrete) : Nat :=
  (chip.layout.chr.extract chip.latch).toNat

def mirroring (chip : Discrete) : Mirroring :=
  if !chip.layout.screen.isPresent then chip.solder
  else if chip.layout.screen.extract chip.latch = 0 then .oneScreenLower
  else .oneScreenUpper

end Discrete

end NesCartridge
