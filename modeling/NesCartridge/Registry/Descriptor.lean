/-
  NesCartridge.Registry.Descriptor

  One description per board: mapper number, registers, switchable windows and features. The
  controller and the diagnostics consult it and know no board by name unless its registers
  are written in a way of their own.
-/
import NesCartridge.Error
import NesCartridge.Registry.Address
import NesCartridge.Registry.BitField
import NesCartridge.Registry.Board

namespace NesCartridge

/-- What is fixed about a board. -/
structure Descriptor where
  /-- iNES mapper number. -/
  id : Nat
  name : String
  registers : List Register := []
  prgWindows : List Window := []
  chrWindows : List Window := []
  mirroring : MirroringSet := .empty
  wram : WramControl := .none
  irq : IrqKind := .none
  /-- A latch write is ANDed with the ROM byte at its address. -/
  busConflicts : Bool := false
  latch : Option LatchLayout := none

namespace Descriptor

/-- Address of the register with the given role. -/
def register? (desc : Descriptor) (role : RegisterRole) : Option UInt16 :=
  (desc.registers.find? (·.role = role)).map (·.addr)

theorem mem_of_register? {desc : Descriptor} {role : RegisterRole} {addr : UInt16}
    (h : desc.register? role = some addr) : addr ∈ desc.registers.map (·.addr) := by
  obtain ⟨register, hfind, haddr⟩ := Option.map_eq_some_iff.mp h
  exact List.mem_map.mpr ⟨register, List.mem_of_find?_eq_some hfind, haddr⟩

def supportsIrq (desc : Descriptor) : Bool :=
  desc.irq ≠ .none

def supportsMirroring (desc : Descriptor) (mode : Mirroring) : Bool :=
  desc.mirroring.contains mode

def hasWram (desc : Descriptor) : Bool :=
  desc.wram ≠ .none

theorem supportsIrq_eq_false_iff {desc : Descriptor} :
    desc.supportsIrq = false ↔ desc.irq = .none := by
  rw [supportsIrq, decide_eq_false_iff_not, Decidable.not_not]

theorem hasWram_eq_true_iff {desc : Descriptor} : desc.hasWram = true ↔ desc.wram ≠ .none :=
  decide_eq_true_iff

theorem hasWram_eq_false_iff {desc : Descriptor} : desc.hasWram = false ↔ desc.wram = .none := by
  rw [hasWram, decide_eq_false_iff_not, Decidable.not_not]

/-- Some windows of the board depend on a tile latch. -/
def hasTileLatches (desc : Descriptor) : Bool :=
  desc.chrWindows.any (·.latch.isSome)

/-- The window with this number among `windows`. -/
def window (windows : List Window) (number : Nat) : Except MapperError Window :=
  match windows[number]? with
  | some found => .ok found
  | none => .error (.invalidWindow number windows.length)

end Descriptor

/-! ## The registry -/

/-- Registers of a board with one latch. -/
def latchRegisters : List Register := [⟨.latch, Address.latch⟩]

/-- Registers shared by MMC2 and MMC4. -/
def tileLatchRegisters : List Register :=
  [⟨.prg, Address.mmc2Prg⟩, ⟨.chrFd0000, Address.mmc2ChrFd0000⟩,
    ⟨.chrFe0000, Address.mmc2ChrFe0000⟩, ⟨.chrFd1000, Address.mmc2ChrFd1000⟩,
    ⟨.chrFe1000, Address.mmc2ChrFe1000⟩, ⟨.mirroring, Address.mmc2Mirroring⟩]

/-- CHR windows shared by MMC2 and MMC4: two per half of pattern memory. -/
def tileLatchWindows : List Window :=
  [⟨0x0000, 0x1000, 31, some .fd⟩, ⟨0x0000, 0x1000, 31, some .fe⟩,
    ⟨0x1000, 0x1000, 31, some .fd⟩, ⟨0x1000, 0x1000, 31, some .fe⟩]

/-- The registry entry of a board. -/
def Board.descriptor : Board → Descriptor
  | .nrom => { id := 0, name := "NROM" }
  | .mmc1 =>
    { id := 1
      name := "MMC1"
      registers := [⟨.control, Address.mmc1Control⟩, ⟨.chr0, Address.mmc1Chr0⟩,
        ⟨.chr1, Address.mmc1Chr1⟩, ⟨.prg, Address.mmc1Prg⟩]
      prgWindows := [⟨0x8000, 0x4000, 15, none⟩]
      chrWindows := [⟨0x0000, 0x1000, 31, none⟩, ⟨0x1000, 0x1000, 31, none⟩]
      mirroring := .all
      wram := .mmc1 }
  | .uxRom =>
    { id := 2
      name := "UxROM"
      registers := latchRegisters
      prgWindows := [⟨0x8000, 0x4000, 15, none⟩]
      busConflicts := true
      latch := some { prg := ⟨0x0F⟩ } }
  | .cnRom =>
    { id := 3
      name := "CNROM"
      registers := latchRegisters
      chrWindows := [⟨0x0000, 0x2000, 3, none⟩]
      busConflicts := true
      latch := some { chr := ⟨0x03⟩ } }
  | .mmc3 =>
    { id := 4
      name := "MMC3"
      registers := [⟨.select, Address.mmc3Select⟩, ⟨.data, Address.mmc3Data⟩,
        ⟨.mirroring, Address.mmc3Mirroring⟩, ⟨.wramProtect, Address.mmc3WramProtect⟩,
        ⟨.irqPeriod, Address.mmc3IrqPeriod⟩, ⟨.irqReload, Address.mmc3IrqReload⟩,
        ⟨.irqDisable, Address.mmc3IrqDisable⟩, ⟨.irqEnable, Address.mmc3IrqEnable⟩]
      prgWindows := [⟨0x8000, 0x2000, 63, none⟩, ⟨0xA000, 0x2000, 63, none⟩]
      chrWindows := [⟨0x0000, 0x0800, 127, none⟩, ⟨0x0800, 0x0800, 127, none⟩,
        ⟨0x1000, 0x0400, 255, none⟩, ⟨0x1400, 0x0400, 255, none⟩,
        ⟨0x1800, 0x0400, 255, none⟩, ⟨0x1C00, 0x0400, 255, none⟩]
      mirroring := .twoScreen
      wram := .mmc3
      irq := .scanline }
  | .axRom =>
    { id := 7
      name := "AxROM"
      registers := latchRegisters
      prgWindows := [⟨0x8000, 0x8000, 7, none⟩]
      mirroring := .oneScreen
      busConflicts := true
      latch := some { prg := ⟨0x07⟩, screen := ⟨0x10⟩ } }
  | .mmc2 =>
    { id := 9
      name := "MMC2"
      registers := tileLatchRegisters
      prgWindows := [⟨0x8000, 0x2000, 15, none⟩]
      chrWindows := tileLatchWindows
      mirroring := .twoScreen }
  | .mmc4 =>
    { id := 10
      name := "MMC4"
      registers := tileLatchRegisters
      prgWindows := [⟨0x8000, 0x4000, 15, none⟩]
      chrWindows := tileLatchWindows
      mirroring := .twoScreen
      wram := .fixed }
  | .colorDreams =>
    { id := 11
      name := "Color Dreams"
      registers := latchRegisters
      prgWindows := [⟨0x8000, 0x8000, 3, none⟩]
      chrWindows := [⟨0x0000, 0x2000, 15, none⟩]
      busConflicts := true
      latch := some { prg := ⟨0x03⟩, chr := ⟨0xF0⟩ } }
  | .action53 =>
    { id := 28
      name := "Action 53"
      registers := [⟨.select, Address.action53Select⟩, ⟨.data, Address.action53Data⟩]
      prgWindows := [⟨0x8000, 0x4000, 15, none⟩]
      chrWindows := [⟨0x0000, 0x2000, 3, none⟩]
      mirroring := .all }
  | .unrom512 =>
    { id := 30
      name := "UNROM 512"
      registers := latchRegisters
      prgWindows := [⟨0x8000, 0x4000, 31, none⟩]
      chrWindows := [⟨0x0000, 0x2000, 3, none⟩]
      mirroring := .oneScreen
      latch := some { prg := ⟨0x1F⟩, chr := ⟨0x60⟩, screen := ⟨0x80⟩ } }
  | .bnRom =>
    { id := 34
      name := "BNROM"
      registers := latchRegisters
      prgWindows := [⟨0x8000, 0x8000, 3, none⟩]
      busConflicts := true
      latch := some { prg := ⟨0x03⟩ } }
  | .gnRom =>
    { id := 66
      name := "GNROM"
      registers := latchRegisters
      prgWindows := [⟨0x8000, 0x8000, 3, none⟩]
      chrWindows := [⟨0x0000, 0x2000, 3, none⟩]
      busConflicts := true
      latch := some { prg := ⟨0x30⟩, chr := ⟨0x03⟩ } }
  | .fme7 =>
    { id := 69
      name := "FME-7"
      registers := [⟨.select, Address.fme7Select⟩, ⟨.data, Address.fme7Data⟩]
      prgWindows := [⟨0x8000, 0x2000, 63, none⟩, ⟨0xA000, 0x2000, 63, none⟩,
        ⟨0xC000, 0x2000, 63, none⟩]
      chrWindows := [⟨0x0000, 0x0400, 255, none⟩, ⟨0x0400, 0x0400, 255, none⟩,
        ⟨0x0800, 0x0400, 255, none⟩, ⟨0x0C00, 0x0400, 255, none⟩,
        ⟨0x1000, 0x0400, 255, none⟩, ⟨0x1400, 0x0400, 255, none⟩,
        ⟨0x1800, 0x0400, 255, none⟩, ⟨0x1C00, 0x0400, 255, none⟩]
      mirroring := .all
      wram := .fme7
      irq := .cpuCycle }

namespace Board

/-- The board with this mapper number. -/
def resolve (number : Nat) : Except MapperError Board :=
  match all.find? (·.descriptor.id = number) with
  | some board => .ok board
  | none => .error (.unknownMapper number)

theorem resolve_id (board : Board) : resolve board.descriptor.id = .ok board := by
  cases board <;> rfl

theorem resolve_of_forall_id_ne {number : Nat} (h : ∀ board : Board, board.descriptor.id ≠ number) :
    resolve number = .error (.unknownMapper number) := by
  have hnone : all.find? (·.descriptor.id = number) = none :=
    List.find?_eq_none.mpr fun board _ => by simpa using h board
  rw [resolve, hnone]

end Board

end NesCartridge
