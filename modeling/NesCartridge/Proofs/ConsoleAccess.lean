/-
  NesCartridge.Proofs.ConsoleAccess

  What an access to the console leaves alone. CPU writes that spare the mapper registers, PPU
  accesses and the passing of time keep the header and the PRG memory and do not disturb the
  chip (`Console.Keeps`); only a PPU write to pattern memory changes pattern memory. Of all this
  the chip notices pattern accesses and the passing of time (`Action.chip_access`), and a part of
  it that no register holds follows those alone, whatever requests and raw register writes come
  between (`Script.view_run`).
-/
import NesCartridge.Proofs.Chip.Holds
import NesCartridge.Proofs.Script

namespace NesCartridge

namespace Chip

/-- Whatever happened to the chip, the registers that the controller writes are as before. -/
structure Undisturbed (before after : Chip) : Prop where
  wired : ∀ {board solder}, before.Wired board solder → after.Wired board solder
  holds : ∀ {shadow}, before.Holds shadow → after.Holds shadow
  select : after.select? = before.select?

theorem undisturbed_refl (chip : Chip) : chip.Undisturbed chip := ⟨id, id, rfl⟩

theorem Undisturbed.trans {first second third : Chip} (h : first.Undisturbed second)
    (h' : second.Undisturbed third) : first.Undisturbed third :=
  ⟨fun hwired => h'.wired (h.wired hwired), fun hholds => h'.holds (h.holds hholds),
    h'.select.trans h.select⟩

theorem undisturbed_fetched (chip : Chip) (addr : UInt16) :
    chip.Undisturbed (chip.fetched addr) :=
  ⟨fun h => h.fetched addr, fun h => h.fetched addr, select?_fetched chip addr⟩

theorem undisturbed_clock (chip : Chip) : chip.Undisturbed chip.clock :=
  ⟨fun h => h.clock, fun h => h.clock, select?_clock chip⟩

theorem undisturbed_clocks (chip : Chip) (cycles : Nat) :
    chip.Undisturbed (cycles.repeat clock chip) := by
  induction cycles with
  | zero => exact undisturbed_refl chip
  | succ cycles ih => exact ih.trans (undisturbed_clock _)

/-- Action 53 alone has a register below PRG memory. -/
theorem write_of_lt (chip : Chip) {addr : UInt16} (haddr : addr.toNat < 0x8000)
    (hother : ∀ c, chip ≠ .action53 c) (data : UInt8) : chip.write addr data = chip := by
  cases chip with
  | nrom => rfl
  | mmc1 c => rw [write, Mmc1.write, if_pos haddr]
  | mmc2 c =>
    -- The chip decodes by pages of 4 KiB, and the lowest that it knows is `$A000`.
    have hpage : addr.toNat / 0x1000 ≤ 7 := by omega
    rw [write, Mmc2.write]
    split
    all_goals first
      | rfl
      | omega
  | mmc3 c => rw [write, Mmc3.write]; simp only [haddr, if_true]
  | action53 c => exact absurd rfl (hother c)
  | fme7 c => rw [write, Fme7.write, if_pos haddr]
  | discrete c => rw [write, Discrete.write, if_neg (Nat.not_le.mpr haddr)]

/-- No chip has a register below `$5000` or in the range of the work RAM. -/
theorem write_of_spares (chip : Chip) {addr : UInt16}
    (haddr : addr.toNat < 0x5000 ∨ inWram addr = true) (data : UInt8) :
    chip.write addr data = chip := by
  have hrange : addr.toNat < 0x5000 ∨ 0x6000 ≤ addr.toNat ∧ addr.toNat < 0x8000 :=
    haddr.imp_right inWram_iff.mp
  cases chip with
  | action53 c => rw [write, Action53.write, if_neg (by omega), if_neg (by omega)]
  | nrom | mmc1 | mmc2 | mmc3 | fme7 | discrete =>
    refine write_of_lt _ (by omega) (fun c hchip => ?_) data
    cases hchip

end Chip

/-- Without bus conflicts a write to the board reaches the chip as it is, and the chip knows which
addresses are its own. -/
theorem Hardware.chip_write {hw : Hardware} (h : hw.chip.busConflicts = false) (addr : UInt16)
    (data : UInt8) : (hw.write addr data).chip = hw.chip.write addr data := by
  unfold write
  split
  next hlow => exact (hw.chip.write_of_spares (Or.inl (by omega)) data).symm
  next =>
    split
    next hwram =>
      rw [hw.chip.write_of_spares (Or.inr hwram), writeWram]
      split <;> rfl
    next =>
      rw [writeChip, h]
      rfl

theorem Hardware.size_wram_write (hw : Hardware) (addr : UInt16) (data : UInt8) :
    (hw.write addr data).wram.size = hw.wram.size := by
  unfold write
  split
  next => rfl
  next =>
    split
    next =>
      rw [writeWram]
      split
      next => exact Memory.size_wramWrite ..
      next => rfl
    next => rfl

namespace Action

/-- What the CPU writes, if it writes, is no matter to this chip. -/
def SparesChip (chip : Chip) : Action → Prop
  | writeCpu addr _ => ∀ seen, chip.write addr seen = chip
  | _ => True

theorem SparesRegisters.sparesChip {action : Action} (h : action.SparesRegisters) (chip : Chip) :
    action.SparesChip chip := by
  cases action with
  | writeCpu addr data => exact chip.write_of_spares h
  | request | readCpu | readPpu | writePpu | tick => exact trivial

theorem StaysLow.sparesChip {action : Action} (h : action.StaysLow) {chip : Chip}
    (hother : ∀ c, chip ≠ .action53 c) : action.SparesChip chip := by
  cases action with
  | writeCpu addr data => exact chip.write_of_lt h hother
  | request | readCpu | readPpu | writePpu | tick => exact trivial

end Action

/-! ## Pattern memory -/

/-- Pattern memory of the same size and kind; ROM with the same bytes. -/
structure Chr.SameKind (before after : Chr) : Prop where
  size : after.cells.size = before.cells.size
  writable : after.writable = before.writable
  rom : before.writable = false → after = before

namespace Chr

theorem sameKind_refl (chr : Chr) : chr.SameKind chr := ⟨rfl, rfl, fun _ => rfl⟩

theorem SameKind.trans {first second third : Chr} (h : first.SameKind second)
    (h' : second.SameKind third) : first.SameKind third where
  size := h'.size.trans h.size
  writable := h'.writable.trans h.writable
  rom hrom := (h'.rom (h.writable.trans hrom)).trans (h.rom hrom)

theorem SameKind.symm {first second : Chr} (h : first.SameKind second) : second.SameKind first where
  size := h.size.symm
  writable := h.writable.symm
  rom hrom := (h.rom (h.writable.symm.trans hrom)).symm

theorem sameKind_write (chr : Chr) (bank size offset : Nat) (value : UInt8) :
    chr.SameKind (chr.write bank size offset value) :=
  ⟨size_write .., writable_write .., fun hrom => write_of_not_writable hrom ..⟩

end Chr

namespace Console

/-- Pattern memory in the cartridge. -/
def patterns (console : Console) : Chr :=
  console.cart.hardware.chr

/-- The work RAM in the cartridge. -/
def workRam (console : Console) : Memory :=
  console.cart.hardware.wram

/-- The header and the PRG memory are the same, the work RAM has its length, and the chip is
undisturbed. -/
structure Keeps (before after : Console) : Prop where
  header : after.cart.header = before.cart.header
  prg : after.cart.hardware.prg = before.cart.hardware.prg
  wram : after.workRam.size = before.workRam.size
  chip : before.chip.Undisturbed after.chip

theorem keeps_refl (console : Console) : console.Keeps console :=
  ⟨rfl, rfl, rfl, Chip.undisturbed_refl _⟩

theorem Keeps.trans {first second third : Console} (h : first.Keeps second)
    (h' : second.Keeps third) : first.Keeps third :=
  ⟨h'.header.trans h.header, h'.prg.trans h.prg, h'.wram.trans h.wram, h.chip.trans h'.chip⟩

/-! ## CPU accesses -/

/-- From `$4020` on the cartridge answers. -/
theorem readCpu_of_le (console : Console) {addr : UInt16} (h : 0x4020 ≤ addr.toNat) :
    console.readCpu addr = console.cart.hardware.readCpu addr := by
  rw [readCpu, if_neg (by omega), if_neg (by omega), Cartridge.read, Hardware.read,
    if_neg (by omega)]

/-- Outside the memories a CPU write arrives at the chip; where the ROM drives the data lines
too, the chip sees the AND of both bytes. -/
theorem writeCpu_of_outside (console : Console) {addr : UInt16} (hlow : 0x4020 ≤ addr.toNat)
    (hwram : inWram addr = false) (data : UInt8) :
    console.writeCpu addr data = console.withChip (console.chip.write addr
      (if console.chip.busConflicts then data &&& console.cart.hardware.readCpu addr
        else data)) := by
  rw [writeCpu, if_neg (by omega), if_neg (by omega), Cartridge.write, Hardware.write,
    if_neg (by omega), hwram, if_neg (by decide)]
  rfl

/-- Wherever a CPU write goes, it reaches the memories or the chip and leaves the rest alone. -/
theorem exists_writeCpu (console : Console) (addr : UInt16) (data : UInt8) :
    ∃ ram wram seen, console.writeCpu addr data =
      { console with
        ram
        cart.hardware.wram := wram
        cart.hardware.chip := console.chip.write addr seen } := by
  -- Where there is no register, the chip is as if it had been written.
  have hspared : ∀ ram wram, (addr.toNat < 0x5000 ∨ inWram addr = true) →
      { console with ram, cart.hardware.wram := wram } =
        { console with
          ram
          cart.hardware.wram := wram
          cart.hardware.chip := console.chip.write addr data } := by
    intro ram wram hspares
    rw [Chip.write_of_spares _ hspares]
    rfl
  by_cases hlow : addr.toNat < 0x4020
  · unfold writeCpu
    split
    · exact ⟨_, console.cart.hardware.wram, data, hspared _ _ (Or.inl (by omega))⟩
    · exact ⟨console.ram, console.cart.hardware.wram, data, hspared _ _ (Or.inl (by omega))⟩
  · cases hwram : inWram addr with
    | true =>
      rw [writeCpu, if_neg (by omega), if_neg hlow, Cartridge.write, Hardware.write,
        if_neg (by omega), if_pos hwram, Hardware.writeWram]
      split
      · exact ⟨console.ram, _, data, hspared _ _ (Or.inr hwram)⟩
      · exact ⟨console.ram, console.cart.hardware.wram, data, hspared _ _ (Or.inr hwram)⟩
    | false =>
      exact ⟨console.ram, console.cart.hardware.wram, _,
        console.writeCpu_of_outside (Nat.le_of_not_lt hlow) hwram data⟩

/-- Away from the mapper registers a CPU write reaches the console's RAM or the work RAM. -/
theorem writeCpu_of_spares (console : Console) {addr : UInt16} {data : UInt8}
    (h : (Action.writeCpu addr data).SparesChip console.chip) :
    ∃ ram wram, console.writeCpu addr data =
      { console with ram, cart.hardware.wram := wram } := by
  obtain ⟨ram, wram, seen, heq⟩ := console.exists_writeCpu addr data
  refine ⟨ram, wram, ?_⟩
  rw [heq, h seen]
  rfl

theorem size_workRam_writeCpu (console : Console) (addr : UInt16) (data : UInt8) :
    (console.writeCpu addr data).workRam.size = console.workRam.size := by
  unfold writeCpu
  split
  next => rfl
  next =>
    split
    next => rfl
    next => exact console.cart.hardware.size_wram_write addr data

theorem keeps_writeCpu (console : Console) {addr : UInt16} {data : UInt8}
    (h : (Action.writeCpu addr data).SparesChip console.chip) :
    console.Keeps (console.writeCpu addr data) := by
  have hwram := console.size_workRam_writeCpu addr data
  obtain ⟨ram, wram, heq⟩ := console.writeCpu_of_spares h
  rw [heq] at hwram ⊢
  exact ⟨rfl, rfl, hwram, Chip.undisturbed_refl _⟩

theorem chr_writeCpu (console : Console) (addr : UInt16) (data : UInt8) :
    (console.writeCpu addr data).cart.hardware.chr = console.cart.hardware.chr := by
  obtain ⟨ram, wram, seen, heq⟩ := console.exists_writeCpu addr data
  rw [heq]

theorem chip_writeCpu (console : Console) {addr : UInt16} {data : UInt8}
    (h : (Action.writeCpu addr data).SparesChip console.chip) :
    (console.writeCpu addr data).chip = console.chip := by
  obtain ⟨ram, wram, heq⟩ := console.writeCpu_of_spares h
  rw [heq]
  rfl

/-! ## PPU accesses -/

/-- The address lines that the PPU has. -/
def ppuAddr (addr : UInt16) : UInt16 :=
  UInt16.ofNat (addr.toNat % 0x4000)

theorem toNat_ppuAddr (addr : UInt16) : (ppuAddr addr).toNat = addr.toNat % 0x4000 := by
  have hlt : addr.toNat % 0x4000 < 0x4000 := Nat.mod_lt _ (by decide)
  exact UInt16.toNat_ofNat_of_lt' (Nat.lt_trans hlt (by decide))

/-- An address within the lines stands for itself. -/
theorem ppuAddr_of_lt {addr : UInt16} (h : addr.toNat < 0x4000) : ppuAddr addr = addr := by
  apply UInt16.toNat_inj.mp
  rw [toNat_ppuAddr]
  exact Nat.mod_eq_of_lt h

/-- The part of the PPU's address space that an address lies in, by the lines that the PPU has. -/
theorem ppuRegion_eq (console : Console) (addr : UInt16) :
    console.ppuRegion addr =
      if (ppuAddr addr).toNat < 0x2000 then .patterns (ppuAddr addr)
      else if (ppuAddr addr).toNat < 0x3F00 then
        .nametables (console.nametableCell (ppuAddr addr))
      else .palette (paletteEntry (ppuAddr addr)) := rfl

theorem ppuRegion_of_lt (console : Console) {addr : UInt16} (h : addr.toNat % 0x4000 < 0x2000) :
    console.ppuRegion addr = .patterns (ppuAddr addr) := by
  rw [ppuRegion_eq, if_pos (by rwa [toNat_ppuAddr])]

theorem ppuRegion_of_le (console : Console) {addr : UInt16} (h : 0x2000 ≤ addr.toNat % 0x4000)
    (pattern : UInt16) : console.ppuRegion addr ≠ .patterns pattern := by
  have hlt : ¬ (ppuAddr addr).toNat < 0x2000 := by rw [toNat_ppuAddr]; omega
  intro hcase
  rw [ppuRegion_eq, if_neg hlt] at hcase
  split at hcase <;> cases hcase

/-- Pattern memory is read through the chip, which then notices the access. -/
theorem readPpu_of_lt (console : Console) {addr : UInt16} (h : addr.toNat % 0x4000 < 0x2000) :
    console.readPpu addr =
      (console.cart.hardware.readChr (ppuAddr addr), console.fetched (ppuAddr addr)) := by
  have hlt : (ppuAddr addr).toNat < 0x2000 := by rwa [toNat_ppuAddr]
  rw [readPpu, ppuRegion_of_lt console h]
  show (console.cart.hardware.read (ppuAddr addr), _) = _
  rw [Hardware.read, if_pos hlt]

theorem writePpu_of_lt (console : Console) {addr : UInt16} (h : addr.toNat % 0x4000 < 0x2000)
    (data : UInt8) :
    console.writePpu addr data =
      { console with cart.hardware :=
          (console.cart.hardware.writeChr (ppuAddr addr) data).fetched (ppuAddr addr) } := by
  have hlt : (ppuAddr addr).toNat < 0x2000 := by rwa [toNat_ppuAddr]
  rw [writePpu, ppuRegion_of_lt console h]
  show Console.fetched { console with cart := console.cart.write (ppuAddr addr) data } _ = _
  rw [Cartridge.write, Hardware.write, if_pos hlt]
  rfl

/-- Above pattern memory a PPU access stays inside the console. -/
theorem readPpu_of_le (console : Console) {addr : UInt16} (h : 0x2000 ≤ addr.toNat % 0x4000) :
    (console.readPpu addr).2 = console := by
  unfold readPpu
  split
  next pattern hcase => exact absurd hcase (ppuRegion_of_le console h pattern)
  next => rfl
  next => rfl

theorem writePpu_of_le (console : Console) {addr : UInt16} (h : 0x2000 ≤ addr.toNat % 0x4000)
    (data : UInt8) :
    (console.writePpu addr data).cart = console.cart := by
  unfold writePpu
  split
  next pattern hcase => exact absurd hcase (ppuRegion_of_le console h pattern)
  next => rfl
  next => rfl

/-- The chip notices accesses to pattern memory and no others. -/
theorem chip_readPpu (console : Console) (addr : UInt16) :
    (console.readPpu addr).2.chip =
      if addr.toNat % 0x4000 < 0x2000 then console.chip.fetched (ppuAddr addr)
      else console.chip := by
  split
  next hlt =>
    rw [readPpu_of_lt console hlt]
    rfl
  next hle => rw [readPpu_of_le console (Nat.le_of_not_lt hle)]

theorem chip_writePpu (console : Console) (addr : UInt16) (data : UInt8) :
    (console.writePpu addr data).chip =
      if addr.toNat % 0x4000 < 0x2000 then console.chip.fetched (ppuAddr addr)
      else console.chip := by
  split
  next hlt =>
    rw [writePpu_of_lt console hlt]
    rfl
  next hle => exact congrArg (·.hardware.chip) (writePpu_of_le console (Nat.le_of_not_lt hle) data)

theorem keeps_readPpu (console : Console) (addr : UInt16) :
    console.Keeps (console.readPpu addr).2 := by
  by_cases hlt : addr.toNat % 0x4000 < 0x2000
  · rw [readPpu_of_lt console hlt]
    exact ⟨rfl, rfl, rfl, Chip.undisturbed_fetched _ _⟩
  · rw [readPpu_of_le console (Nat.le_of_not_lt hlt)]
    exact keeps_refl console

theorem keeps_writePpu (console : Console) (addr : UInt16) (data : UInt8) :
    console.Keeps (console.writePpu addr data) := by
  by_cases hlt : addr.toNat % 0x4000 < 0x2000
  · rw [writePpu_of_lt console hlt]
    exact ⟨rfl, rfl, rfl, Chip.undisturbed_fetched _ _⟩
  · -- The write may reach the nametables or the palette, but never the cartridge.
    have hcart := writePpu_of_le console (Nat.le_of_not_lt hlt) data
    refine ⟨congrArg Cartridge.header hcart, congrArg (·.hardware.prg) hcart,
      congrArg (·.hardware.wram.size) hcart, ?_⟩
    rw [chip, chip, hcart]
    exact Chip.undisturbed_refl _

theorem chr_readPpu (console : Console) (addr : UInt16) :
    (console.readPpu addr).2.cart.hardware.chr = console.cart.hardware.chr := by
  by_cases hlt : addr.toNat % 0x4000 < 0x2000
  · rw [readPpu_of_lt console hlt]
    rfl
  · rw [readPpu_of_le console (Nat.le_of_not_lt hlt)]

theorem sameKind_writePpu (console : Console) (addr : UInt16) (data : UInt8) :
    console.patterns.SameKind (console.writePpu addr data).patterns := by
  by_cases hlt : addr.toNat % 0x4000 < 0x2000
  · rw [writePpu_of_lt console hlt]
    exact Chr.sameKind_write ..
  · have hcart := writePpu_of_le console (Nat.le_of_not_lt hlt) data
    rw [patterns, patterns, hcart]
    exact Chr.sameKind_refl _

/-! ## Time -/

/-- Clock cycles reach the chip alone. -/
theorem tick_eq (console : Console) (cycles : Nat) :
    console.tick cycles = console.withChip (cycles.repeat Chip.clock console.chip) := by
  unfold tick
  induction cycles with
  | zero => rfl
  | succ cycles ih =>
    have hcart : (cycles.repeat Cartridge.clock console.cart) =
        (console.withChip (cycles.repeat Chip.clock console.chip)).cart :=
      congrArg Console.cart ih
    rw [Nat.repeat, hcart]
    rfl

theorem chip_tick (console : Console) (cycles : Nat) :
    (console.tick cycles).chip = cycles.repeat Chip.clock console.chip := by
  rw [tick_eq]
  rfl

theorem keeps_tick (console : Console) (cycles : Nat) : console.Keeps (console.tick cycles) := by
  rw [tick_eq]
  exact ⟨rfl, rfl, rfl, Chip.undisturbed_clocks _ cycles⟩

end Console

/-! ## What the chip notices -/

namespace Action

/-- Address in pattern memory that the action accesses, if it does. -/
def patternAddr? : Action → Option UInt16
  | readPpu addr | writePpu addr _ =>
    if addr.toNat % 0x4000 < 0x2000 then some (Console.ppuAddr addr) else none
  | _ => none

theorem patternAddr?_lt {action : Action} {addr : UInt16} (h : action.patternAddr? = some addr) :
    addr.toNat < 0x2000 := by
  cases action with
  | readPpu full | writePpu full =>
    simp only [patternAddr?] at h
    split at h
    next hlt =>
      cases h
      rwa [Console.toNat_ppuAddr]
    next => cases h
  | request | readCpu | writeCpu | tick => cases h

/-- CPU cycles that pass with the action. -/
def cycles : Action → Nat
  | tick count => count
  | _ => 0

/-- The chip after an access that spares its registers. It notices pattern accesses and the passing
of time. -/
def onChip (chip : Chip) (action : Action) : Chip :=
  let seen := match action.patternAddr? with
    | some addr => chip.fetched addr
    | none => chip
  action.cycles.repeat Chip.clock seen

theorem chip_access {session : Session Console} {action : Action}
    (hspares : action.SparesChip session.bus.chip) (hrequest : ∀ req, action ≠ .request req) :
    (action.perform session).2.bus.chip = action.onChip session.bus.chip := by
  cases action with
  | request req => exact absurd rfl (hrequest req)
  | readCpu addr => rfl
  | writeCpu addr data => exact session.bus.chip_writeCpu hspares
  | readPpu addr =>
    show (session.bus.readPpu addr).2.chip = _
    rw [Console.chip_readPpu, onChip, patternAddr?]
    split <;> rfl
  | writePpu addr data =>
    show (session.bus.writePpu addr data).chip = _
    rw [Console.chip_writePpu, onChip, patternAddr?]
    split <;> rfl
  | tick cycles => exact session.bus.chip_tick cycles

end Action

/-! ## What no register holds -/

section Unregistered

variable {γ : Type} {view : Chip → γ}
  (hview : ∀ (chip : Chip) (addr : UInt16) (data : UInt8), view (chip.write addr data) = view chip)

include hview

theorem Console.view_writeCpu (console : Console) (addr : UInt16) (data : UInt8) :
    view (console.writeCpu addr data).chip = view console.chip := by
  obtain ⟨ram, wram, seen, heq⟩ := console.exists_writeCpu addr data
  rw [heq]
  exact hview console.chip addr seen

theorem Console.view_writeAll (console : Console) (writes : List RegisterWrite) :
    view (Bus.writeAll console writes).chip = view console.chip := by
  induction writes generalizing console with
  | nil => rfl
  | cons w rest ih => exact (ih _).trans (Console.view_writeCpu hview console w.addr w.data)

theorem Session.view_restore (session : Session Console) (saved : UInt8) :
    view (session.restore saved).bus.chip = view session.bus.chip := by
  rw [restore, Controller.restoreSelect]
  cases session.controller.board.selectAddr? with
  | none => rfl
  | some addr => exact Console.view_writeAll hview session.bus [⟨addr, saved⟩]

/-- Requests and raw register writes do not show; pattern accesses and the passing of time may. -/
theorem Action.view_perform (action : Action) (session : Session Console) :
    view (action.perform session).2.bus.chip = view (action.onChip session.bus.chip) := by
  cases action with
  | request req =>
    show view (session.request req).2.bus.chip = view session.bus.chip
    rw [Session.request]
    split
    next next writes hperform => exact Console.view_writeAll hview session.bus writes
    next error hperform => rfl
  | writeCpu addr data => exact Console.view_writeCpu hview session.bus addr data
  | readCpu | readPpu | writePpu | tick =>
    rw [chip_access]
    · exact trivial
    · intro req hreq
      cases hreq

/-- In any run such a part follows the actions alone. -/
theorem Script.view_run {follow : List Action → γ}
    (hfollow : ∀ made (action : Action) chip, view chip = follow made →
      view (action.onChip chip) = follow (made ++ [action]))
    {session : Session Console} (h : view session.bus.chip = follow []) (script : Script Action) :
    view (script.run Action.perform session).2.bus.chip = follow script.actions := by
  have hact : ∀ action : Action, True → ∀ (made : List Action) (_ : History) now,
      view now.bus.chip = follow made →
        view (action.perform now).2.bus.chip = follow (made ++ [action]) := by
    intro action _ made _ now hnow
    rw [Action.view_perform hview]
    exact hfollow made action _ hnow
  exact run_preserves_trace
    (fun made _ (now : Session Console) => view now.bus.chip = follow made) hact
    (fun _ _ _ _ _ after _ hafter => (Session.view_restore hview after _).trans hafter)
    script.forall_true [] [] session h

end Unregistered

end NesCartridge
