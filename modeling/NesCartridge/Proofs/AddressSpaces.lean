/-
  NesCartridge.Proofs.AddressSpaces

  One cartridge answers in the CPU's and in the PPU's address space, and neither side reaches what
  belongs to the other. Main statement: after CPU accesses of any number and kind the PPU finds
  everything as it was, and after PPU accesses the CPU does (`address_spaces_are_apart`).
-/
import NesCartridge.Proofs.Irq.Scanline
import NesCartridge.Proofs.TileLatches

namespace NesCartridge

/-! ## Accesses -/

/-- One access to an address space. -/
inductive BusAccess where
  | read (addr : UInt16)
  | write (addr : UInt16) (data : UInt8)

namespace BusAccess

/-- The console after an access by the CPU, whose reads have no side effects. -/
def onCpu (console : Console) : BusAccess → Console
  | read _ => console
  | write addr data => console.writeCpu addr data

/-- The console after an access by the PPU. -/
def onPpu (console : Console) : BusAccess → Console
  | read addr => (console.readPpu addr).2
  | write addr data => console.writePpu addr data

/-- Written by the CPU, the byte stays inside the console. -/
def StaysInside : BusAccess → Prop
  | read _ => True
  | write addr _ => addr.toNat < 0x4020

end BusAccess

/-! ## What the PPU's accesses may move in a chip -/

namespace Chip

/-- The chip without what pattern accesses move: the tile latches of MMC2 and MMC4, and the counter
of MMC3 with its view of address line 12. Every bank, mode and select register is left. -/
def registers : Chip → Chip
  | mmc2 c =>
    .mmc2 { c with low := { c.low with latch := .fe }, high := { c.high with latch := .fe } }
  | mmc3 c =>
    .mmc3 { c with irqCounter := 0, irqReload := false, irqPending := false, a12 := false }
  | other => other

theorem registers_fetched (chip : Chip) (addr : UInt16) :
    (chip.fetched addr).registers = chip.registers := by
  cases chip with
  | mmc2 c =>
    simp only [fetched, Mmc2.fetched]
    split <;> rfl
  | mmc3 c =>
    simp only [fetched, Mmc3.fetched]
    -- A clock of the counter or none: both leave the registers.
    split <;> rfl
  | nrom | mmc1 | action53 | fme7 | discrete => rfl

/-- The CPU's side of the address map follows the registers. -/
theorem cpuTarget_of_registers_eq {chip other : Chip} (h : other.registers = chip.registers)
    (prgSize wramSize : Nat) (addr : UInt16) :
    other.cpuTarget prgSize wramSize addr = chip.cpuTarget prgSize wramSize addr := by
  have hsees : ∀ c : Chip,
      c.registers.cpuTarget prgSize wramSize addr = c.cpuTarget prgSize wramSize addr := by
    intro c
    cases c <;> rfl
  rw [← hsees other, h, hsees chip]

theorem mirroring_of_registers_eq {chip other : Chip} (h : other.registers = chip.registers) :
    other.mirroring = chip.mirroring := by
  have hsees : ∀ c : Chip, c.registers.mirroring = c.mirroring := by
    intro c
    cases c <;> rfl
  rw [← hsees other, h, hsees chip]

end Chip

namespace Console

/-! ## The PPU's side under CPU accesses -/

/-- Everything that belongs to the PPU's side is as before. -/
structure SameForPpu (before after : Console) : Prop where
  patterns : after.patterns = before.patterns
  nametables : after.nametables = before.nametables
  palette : after.palette = before.palette
  latches : ∀ half, after.chip.latch? half = before.chip.latch? half
  line : after.chip.line? = before.chip.line?

theorem sameForPpu_refl (console : Console) : console.SameForPpu console :=
  ⟨rfl, rfl, rfl, fun _ => rfl, rfl⟩

theorem SameForPpu.trans {first second third : Console} (h : first.SameForPpu second)
    (h' : second.SameForPpu third) : first.SameForPpu third where
  patterns := h'.patterns.trans h.patterns
  nametables := h'.nametables.trans h.nametables
  palette := h'.palette.trans h.palette
  latches half := (h'.latches half).trans (h.latches half)
  line := h'.line.trans h.line

theorem sameForPpu_onCpu (console : Console) (access : BusAccess) :
    console.SameForPpu (access.onCpu console) := by
  cases access with
  | read addr => exact sameForPpu_refl console
  | write addr data =>
    obtain ⟨ram, wram, seen, heq⟩ := console.exists_writeCpu addr data
    show console.SameForPpu (console.writeCpu addr data)
    rw [heq]
    exact ⟨rfl, rfl, rfl, fun half => Chip.latch?_write half console.chip addr seen,
      Chip.line?_write console.chip addr seen⟩

theorem sameForPpu_foldl (console : Console) (accesses : List BusAccess) :
    console.SameForPpu (accesses.foldl BusAccess.onCpu console) := by
  induction accesses generalizing console with
  | nil => exact sameForPpu_refl console
  | cons access rest ih => exact (sameForPpu_onCpu console access).trans (ih _)

/-- The cartridge is not told of CPU accesses below its own addresses. -/
theorem cart_onCpu (console : Console) {access : BusAccess} (h : access.StaysInside) :
    (access.onCpu console).cart = console.cart := by
  cases access with
  | read addr => rfl
  | write addr data =>
    have hlow : addr.toNat < 0x4020 := h
    show (console.writeCpu addr data).cart = console.cart
    simp only [writeCpu, if_pos hlow]
    split <;> rfl

theorem cart_foldl_onCpu (console : Console) {accesses : List BusAccess}
    (h : ∀ access ∈ accesses, access.StaysInside) :
    (accesses.foldl BusAccess.onCpu console).cart = console.cart := by
  induction accesses generalizing console with
  | nil => rfl
  | cons access rest ih =>
    have hrest := ih (access.onCpu console) fun other hmem => h other (List.mem_cons_of_mem _ hmem)
    exact hrest.trans (console.cart_onCpu (h access (List.mem_cons_self ..)))

/-! ## The CPU's side under PPU accesses -/

/-- Everything is as before but for the contents of CHR RAM, the nametables, the palette and what
pattern accesses move in the chip. -/
structure SameForCpu (before after : Console) : Prop where
  ram : after.ram = before.ram
  header : after.cart.header = before.cart.header
  board : after.cart.board = before.cart.board
  prg : after.cart.hardware.prg = before.cart.hardware.prg
  wram : after.cart.hardware.wram = before.cart.hardware.wram
  registers : after.chip.registers = before.chip.registers
  patterns : before.patterns.SameKind after.patterns

theorem sameForCpu_refl (console : Console) : console.SameForCpu console :=
  ⟨rfl, rfl, rfl, rfl, rfl, rfl, Chr.sameKind_refl _⟩

theorem SameForCpu.trans {first second third : Console} (h : first.SameForCpu second)
    (h' : second.SameForCpu third) : first.SameForCpu third where
  ram := h'.ram.trans h.ram
  header := h'.header.trans h.header
  board := h'.board.trans h.board
  prg := h'.prg.trans h.prg
  wram := h'.wram.trans h.wram
  registers := h'.registers.trans h.registers
  patterns := h.patterns.trans h'.patterns

theorem sameForCpu_readPpu (console : Console) (addr : UInt16) :
    console.SameForCpu (console.readPpu addr).2 := by
  by_cases hlt : addr.toNat % 0x4000 < 0x2000
  · rw [readPpu_of_lt console hlt]
    exact ⟨rfl, rfl, rfl, rfl, rfl, console.chip.registers_fetched _, Chr.sameKind_refl _⟩
  · rw [readPpu_of_le console (Nat.le_of_not_lt hlt)]
    exact sameForCpu_refl console

theorem sameForCpu_writePpu (console : Console) (addr : UInt16) (data : UInt8) :
    console.SameForCpu (console.writePpu addr data) := by
  by_cases hlt : addr.toNat % 0x4000 < 0x2000
  · rw [writePpu_of_lt console hlt]
    exact ⟨rfl, rfl, rfl, rfl, rfl, console.chip.registers_fetched _, Chr.sameKind_write ..⟩
  · have hle := Nat.le_of_not_lt hlt
    have hcart := writePpu_of_le console hle data
    have hram : (console.writePpu addr data).ram = console.ram := by
      unfold writePpu
      split <;> rfl
    refine ⟨hram, congrArg Cartridge.header hcart, congrArg Cartridge.board hcart,
      congrArg (·.hardware.prg) hcart, congrArg (·.hardware.wram) hcart,
      congrArg (·.hardware.chip.registers) hcart, ?_⟩
    exact sameKind_writePpu console addr data

theorem sameForCpu_onPpu (console : Console) (access : BusAccess) :
    console.SameForCpu (access.onPpu console) := by
  cases access with
  | read addr => exact console.sameForCpu_readPpu addr
  | write addr data => exact console.sameForCpu_writePpu addr data

theorem sameForCpu_foldl (console : Console) (accesses : List BusAccess) :
    console.SameForCpu (accesses.foldl BusAccess.onPpu console) := by
  induction accesses generalizing console with
  | nil => exact sameForCpu_refl console
  | cons access rest ih => exact (sameForCpu_onPpu console access).trans (ih _)

namespace SameForCpu

variable {before after : Console}

theorem mirroring (h : before.SameForCpu after) : after.cart.mirroring = before.cart.mirroring :=
  Chip.mirroring_of_registers_eq h.registers

/-- The CPU cannot tell the two consoles apart. -/
theorem readCpu (h : before.SameForCpu after) (addr : UInt16) :
    after.readCpu addr = before.readCpu addr := by
  by_cases hcart : 0x4020 ≤ addr.toNat
  · have htarget : after.cart.hardware.cpuTarget addr = before.cart.hardware.cpuTarget addr := by
      rw [Hardware.cpuTarget, Hardware.cpuTarget, h.prg, h.wram]
      exact Chip.cpuTarget_of_registers_eq h.registers _ _ addr
    rw [readCpu_of_le _ hcart, readCpu_of_le _ hcart, Hardware.readCpu, Hardware.readCpu, h.prg,
      h.wram, htarget]
  · rw [Console.readCpu, Console.readCpu, h.ram]
    simp only [if_pos (Nat.lt_of_not_le hcart)]

end SameForCpu

end Console

/-- On any board, with any cartridge and from any state: CPU accesses leave pattern memory, the
nametables, the palette, the tile latches and the level of address line 12 as they were, and those
whose writes stay below `$4020` leave the cartridge as it was; PPU accesses leave all else as it was
but the bytes of CHR RAM, the nametables, the palette, the tile latches and the counter of MMC3, so
the mirroring is the same and the CPU reads the same bytes. -/
theorem address_spaces_are_apart (console : Console) (accesses : List BusAccess) :
    let afterCpu := accesses.foldl BusAccess.onCpu console
    let afterPpu := accesses.foldl BusAccess.onPpu console
    console.SameForPpu afterCpu ∧
      ((∀ access ∈ accesses, access.StaysInside) → afterCpu.cart = console.cart) ∧
      console.SameForCpu afterPpu ∧ afterPpu.cart.mirroring = console.cart.mirroring ∧
      ∀ addr, afterPpu.readCpu addr = console.readCpu addr := by
  intro afterCpu afterPpu
  have hppu : console.SameForPpu afterCpu := console.sameForPpu_foldl accesses
  have hcpu : console.SameForCpu afterPpu := console.sameForCpu_foldl accesses
  exact ⟨hppu, console.cart_foldl_onCpu, hcpu, hcpu.mirroring, hcpu.readCpu⟩

/-- The same accesses to an MMC3 whose work RAM is switched off. From the CPU they end in its RAM or
nowhere; from the PPU they reach CHR RAM, the palette and a nametable, and show in no CPU read. -/
theorem address_spaces_are_apart_mmc3 :
    let console := (Console.powerOn (Cartridge.ofParts .mmc3 (taggedPrg 0x8000) (.ram 0x2000)
      .vertical)).writeCpu 0xA001 0x00
    let accesses : List BusAccess := [.write 0x1FE8 7, .read 0x3FFF, .write 0x2000 5]
    (∀ access ∈ accesses, access.StaysInside) ∧
      (accesses.foldl BusAccess.onCpu console).cart = console.cart ∧
      (∀ addr, (accesses.foldl BusAccess.onPpu console).readCpu addr = console.readCpu addr) := by
  intro console accesses
  have hinside : ∀ access ∈ accesses, access.StaysInside := by
    intro access hmem
    simp only [accesses, List.mem_cons, List.not_mem_nil, or_false] at hmem
    rcases hmem with rfl | rfl | rfl
    · show (0x1FE8 : UInt16).toNat < 0x4020
      decide
    · exact trivial
    · show (0x2000 : UInt16).toNat < 0x4020
      decide
  obtain ⟨-, hcart, -, -, hreads⟩ := address_spaces_are_apart console accesses
  exact ⟨hinside, hcart hinside, hreads⟩

end NesCartridge
