/-
  NesCartridge.Chip.Mmc3

  MMC3: eight bank registers written through a select register, with two bits that exchange
  parts of the address map, mirroring and work RAM switches, and a counter clocked by rises of
  PPU address line 12.
-/
import NesCartridge.Chip.Target
import NesCartridge.Mirroring

namespace NesCartridge

structure Mmc3 where
  /-- Bits 0–2 name the bank register written next, bit 6 exchanges PRG slots, bit 7 exchanges
  the halves of pattern memory. -/
  bankSelect : UInt8 := 0
  /-- R0 and R1 hold 2 KiB CHR banks in 1 KiB units, R2 to R5 1 KiB CHR banks, R6 and R7 8 KiB
  PRG banks. -/
  banks : Vector UInt8 8 := Vector.replicate 8 0
  mirroring : Mirroring := .vertical
  wramEnabled : Bool := true
  wramProtected : Bool := false
  irqLatch : UInt8 := 0
  irqCounter : UInt8 := 0
  irqReload : Bool := false
  irqEnabled : Bool := false
  irqPending : Bool := false
  /-- Address line 12 at the last pattern access. -/
  a12 : Bool := false

namespace Mmc3

/-- The bank register that the low three bits of a select byte name. -/
def bankRegister (select : UInt8) : Fin 8 :=
  ⟨select.toNat % 8, Nat.mod_lt _ (by decide)⟩

/-- Registers come in pairs per 8 KiB of address space, at the even and at the odd addresses. -/
def write (chip : Mmc3) (addr : UInt16) (data : UInt8) : Mmc3 :=
  let even := addr.toNat % 2 = 0
  if addr.toNat < 0x8000 then chip
  else if addr.toNat < 0xA000 then
    if even then { chip with bankSelect := data }
    else
      let register := bankRegister chip.bankSelect
      { chip with banks := chip.banks.set register data register.isLt }
  else if addr.toNat < 0xC000 then
    if even then
      { chip with mirroring := if data &&& 1 == 1 then .horizontal else .vertical }
    else
      { chip with wramEnabled := data &&& 0x80 != 0, wramProtected := data &&& 0x40 != 0 }
  else if addr.toNat < 0xE000 then
    -- A reload takes effect at the next rise, with the latch as it is then.
    if even then { chip with irqLatch := data }
    else { chip with irqReload := true, irqCounter := 0 }
  else
    if even then { chip with irqEnabled := false, irqPending := false }
    else { chip with irqEnabled := true }

/-- One step of the IRQ counter: it counts down and starts over from the latch at zero. -/
def clockIrq (chip : Mmc3) : Mmc3 :=
  let counter :=
    if chip.irqCounter = 0 ∨ chip.irqReload then chip.irqLatch else chip.irqCounter - 1
  { chip with
    irqCounter := counter
    irqReload := false
    irqPending := chip.irqPending || (counter = 0 && chip.irqEnabled) }

/-- The PPU accessed pattern memory: a rise of address line 12 clocks the counter. -/
def fetched (chip : Mmc3) (addr : UInt16) : Mmc3 :=
  let a12 : Bool := addr.toNat / 0x1000 % 2 = 1
  -- Only a rise counts: the line was low at the access before.
  let clocked := if a12 && !chip.a12 then chip.clockIrq else chip
  { clocked with a12 }

def prgSwapped (chip : Mmc3) : Bool :=
  chip.bankSelect &&& 0x40 != 0

def chrInverted (chip : Mmc3) : Bool :=
  chip.bankSelect &&& 0x80 != 0

/-- 8 KiB bank in one of the four PRG slots. The last is fixed; so is the second last, in the
slot that R6 does not have. -/
def prgBank (chip : Mmc3) (prgSize slot : Nat) : Nat :=
  let last := bankCount prgSize 0x2000 - 1
  let r6 := (chip.banks.get ⟨6, by decide⟩).toNat % 64
  match slot with
  | 0 => if chip.prgSwapped then last - 1 else r6
  | 1 => (chip.banks.get ⟨7, by decide⟩).toNat % 64
  | 2 => if chip.prgSwapped then r6 else last - 1
  | _ => last

def cpuTarget (chip : Mmc3) (prgSize : Nat) (addr : UInt16) : CpuTarget :=
  if inWram addr then
    if chip.wramEnabled then .wram (!chip.wramProtected) else .openBus
  else if 0x8000 ≤ addr.toNat then
    .prg ⟨chip.prgBank prgSize (addr.toNat / 0x2000 % 4), 0x2000⟩
  else .openBus

/-- 1 KiB bank in one of the eight CHR slots, before the halves are exchanged. -/
def chrSlotBank (chip : Mmc3) (slot : Nat) : Nat :=
  match slot with
  | 0 => chip.banks[0].toNat / 2 * 2
  | 1 => chip.banks[0].toNat / 2 * 2 + 1
  | 2 => chip.banks[1].toNat / 2 * 2
  | 3 => chip.banks[1].toNat / 2 * 2 + 1
  | 4 => chip.banks[2].toNat
  | 5 => chip.banks[3].toNat
  | 6 => chip.banks[4].toNat
  | _ => chip.banks[5].toNat

/-- 1 KiB bank at a pattern address. -/
def chrBank (chip : Mmc3) (addr : UInt16) : Nat :=
  let slot := addr.toNat / 0x400 % 8
  chip.chrSlotBank (if chip.chrInverted then (slot + 4) % 8 else slot)

end Mmc3

end NesCartridge
