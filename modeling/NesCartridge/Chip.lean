/-
  NesCartridge.Chip

  The mapper chip of a board: its registers, how it decodes addresses, and its IRQ line.
  The memories it selects banks of are not part of it (see `NesCartridge.Hardware`).
-/
import NesCartridge.Chip.Action53
import NesCartridge.Chip.Discrete
import NesCartridge.Chip.Fme7
import NesCartridge.Chip.Mmc1
import NesCartridge.Chip.Mmc2
import NesCartridge.Chip.Mmc3
import NesCartridge.Registry.Descriptor

namespace NesCartridge

inductive Chip where
  /-- No chip: fixed banks, soldered mirroring. -/
  | nrom (solder : Mirroring)
  | mmc1 (chip : Mmc1)
  | mmc2 (chip : Mmc2)
  | mmc3 (chip : Mmc3)
  | action53 (chip : Action53)
  | fme7 (chip : Fme7)
  | discrete (chip : Discrete)

namespace Chip

/-- The chip of a discrete board at power-on, wired as the registry says. -/
def discreteAtPowerOn (desc : Descriptor) (solder : Mirroring) : Chip :=
  .discrete
    { layout := desc.latch.getD {}
      busConflicts := desc.busConflicts
      prg16k := desc.prgWindows.head?.any (·.size = 0x4000)
      solder }

/-- The chip of a board at power-on. `solder` is the mirroring wired on the board, for boards
that cannot switch it. -/
def powerOn (board : Board) (solder : Mirroring) : Chip :=
  match board with
  | .nrom => .nrom solder
  | .mmc1 => .mmc1 {}
  | .mmc2 => .mmc2 { isMmc4 := false }
  | .mmc4 => .mmc2 { isMmc4 := true }
  | .mmc3 => .mmc3 {}
  | .action53 => .action53 {}
  | .fme7 => .fme7 {}
  | .uxRom | .cnRom | .axRom | .colorDreams | .unrom512 | .bnRom | .gnRom =>
    discreteAtPowerOn board.descriptor solder

/-- Bytes of work RAM beside the chip. -/
def wramSize : Chip → Nat
  | mmc1 _ | mmc3 _ | fme7 _ => 0x2000
  | mmc2 c => if c.isMmc4 then 0x2000 else 0
  | nrom _ | action53 _ | discrete _ => 0

/-- Where a CPU access at or above `$2000` ends up, with `prgSize` bytes of PRG memory and
`wramSize` bytes of work RAM. -/
def cpuTarget (chip : Chip) (prgSize wramSize : Nat) (addr : UInt16) : CpuTarget :=
  match chip with
  | nrom _ => if 0x8000 ≤ addr.toNat ∧ 0 < prgSize then .prg ⟨0, 0x8000⟩ else .openBus
  | mmc1 c => c.cpuTarget prgSize addr
  | mmc2 c => c.cpuTarget prgSize wramSize addr
  | mmc3 c => c.cpuTarget prgSize addr
  | action53 c => c.cpuTarget addr
  | fme7 c => c.cpuTarget prgSize addr
  | discrete c => c.cpuTarget prgSize addr

/-- The CHR bank at a pattern address. -/
def chrRef (chip : Chip) (addr : UInt16) : BankRef :=
  match chip with
  | nrom _ => ⟨0, 0x2000⟩
  | mmc1 c => ⟨c.chrBank addr, 0x1000⟩
  | mmc2 c => ⟨c.chrBank addr, 0x1000⟩
  | mmc3 c => ⟨c.chrBank addr, 0x400⟩
  | action53 c => ⟨c.chr.toNat, 0x2000⟩
  | fme7 c => ⟨c.chrBank addr, 0x400⟩
  | discrete c => ⟨c.chrBank, 0x2000⟩

def mirroring : Chip → Mirroring
  | nrom solder => solder
  | mmc1 c => c.mirroring
  | mmc2 c => c.mirroring
  | mmc3 c => c.mirroring
  | action53 c => c.mirroring
  | fme7 c => c.mirroring
  | discrete c => c.mirroring

/-- A byte arrives at a CPU address that is not memory. -/
def write (chip : Chip) (addr : UInt16) (data : UInt8) : Chip :=
  match chip with
  | nrom solder => .nrom solder
  | mmc1 c => .mmc1 (c.write addr data)
  | mmc2 c => .mmc2 (c.write addr data)
  | mmc3 c => .mmc3 (c.write addr data)
  | action53 c => .action53 (c.write addr data)
  | fme7 c => .fme7 (c.write addr data)
  | discrete c => .discrete (c.write addr data)

/-- The ROM drives the data lines during a register write. -/
def busConflicts : Chip → Bool
  | discrete c => c.busConflicts
  | _ => false

/-- The PPU accessed pattern memory at this address. -/
def fetched (chip : Chip) (addr : UInt16) : Chip :=
  match chip with
  | mmc2 c => .mmc2 (c.fetched addr)
  | mmc3 c => .mmc3 (c.fetched addr)
  | other => other

/-- A CPU cycle passed. -/
def clock : Chip → Chip
  | fme7 c => .fme7 c.clock
  | other => other

/-- Level of the IRQ line. -/
def irq : Chip → Bool
  | mmc3 c => c.irqPending
  | fme7 c => c.irqPending
  | _ => false

end Chip

end NesCartridge
