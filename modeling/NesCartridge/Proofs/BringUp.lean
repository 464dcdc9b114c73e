/-
  NesCartridge.Proofs.BringUp

  Bringing a board up leaves nothing of its history. From any state, half-sent serial bits, swapped
  address maps and pending IRQs included, controller and cartridge are in step again
  (`OnBoard.inStep_bringUp`), and two chips that hold the same shadow then decode alike
  (`Chip.Wired.alike`), so no read and no IRQ tells apart what was done to them before
  (`bringUp_erases_history`).
-/
import NesCartridge.Proofs.Features
import NesCartridge.Proofs.Irq.Silence
import NesCartridge.Proofs.TaggedImage

namespace NesCartridge

/-! ## The writes arrive -/

namespace Board

/-- Where the ROM drives the data lines too, bringing the board up clears the latch. -/
theorem bringUpWrites_of_busConflicts {board : Board}
    (h : board.descriptor.busConflicts = true) : board.bringUpWrites = [⟨0xFF00, 0⟩] := by
  cases board with
  | uxRom | cnRom | axRom | colorDreams | bnRom | gnRom => rfl
  | nrom | mmc1 | mmc3 | mmc2 | mmc4 | action53 | unrom512 | fme7 => cases h

/-- The writes name a register themselves, whatever was named before. -/
theorem foldl_bringUpWrites {board : Board} {addr : UInt16} (haddr : board.selectAddr? = some addr)
    (first second : UInt8) :
    board.bringUpWrites.foldl (fun select w => if some addr = some w.addr then w.data else select)
        first =
      board.bringUpWrites.foldl
        (fun select w => if some addr = some w.addr then w.data else select) second := by
  cases board with
  | mmc3 | action53 | fme7 =>
    cases haddr
    rfl
  | nrom | mmc1 | uxRom | cnRom | axRom | mmc2 | mmc4 | colorDreams | unrom512 | bnRom | gnRom =>
    cases haddr

end Board

/-- No PRG memory can spoil a write of zero, so none needs identity tables here. -/
theorem Console.writeAll_bringUpWrites {console : Console} {board : Board} {solder : Mirroring}
    (hwired : console.chip.Wired board solder) :
    Bus.writeAll console board.bringUpWrites =
      console.withChip (console.chip.writeAll board.bringUpWrites) := by
  cases hconflicts : board.descriptor.busConflicts with
  | false =>
    exact Console.writeAll_eq hwired (Memory.quiet_of_no_conflicts hconflicts _) fun w hw =>
      Board.emits_of_mem_bringUpWrites hw
  | true =>
    rw [Board.bringUpWrites_of_busConflicts hconflicts]
    show console.writeCpu 0xFF00 0 = console.withChip (console.chip.write 0xFF00 0)
    rw [writeCpu_of_outside console (by decide) (by decide), UInt8.zero_and, ite_self]

theorem Chip.Wired.select?_bringUpWrites {board : Board} {solder : Mirroring} {chip : Chip}
    (h : chip.Wired board solder) (select : UInt8) :
    (chip.writeAll board.bringUpWrites).select? = board.selectAddr?.map fun _ =>
      board.bringUpWrites.foldl
        (fun select w => if board.selectAddr? = some w.addr then w.data else select) select := by
  have hselect : chip.select? = board.selectAddr?.map fun _ => chip.select?.getD 0 := by
    cases h with
    | nrom | mmc1 | mmc2 | mmc4 | mmc3 | action53 | fme7 => rfl
    | discrete hlayout =>
      rw [(Board.latch_mem_addresses hlayout).1]
      rfl
  rw [h.select?_writeAll (fun w hw => Board.emits_of_mem_bringUpWrites hw) hselect]
  cases haddr : board.selectAddr? with
  | none => rfl
  | some addr => exact congrArg some (Board.foldl_bringUpWrites haddr _ _)

namespace OnBoard

variable {board : Board} {prg : Memory} {chr : Chr} {solder : Mirroring}
  {session : Session Console}

theorem request_bringUp (h : OnBoard board prg chr solder session) :
    session.request .bringUp = (.ok (),
      { controller := { session.controller with
          shadow := some (.atBringUp board)
          select := session.controller.selectAfter board.bringUpWrites }
        bus := session.bus.withChip (session.bus.chip.writeAll board.bringUpWrites) }) := by
  have hperform : session.controller.perform .bringUp =
      .ok ({ session.controller with
          shadow := some (.atBringUp board)
          select := session.controller.selectAfter board.bringUpWrites }, board.bringUpWrites) := by
    rw [← h.board_eq]
    unfold Controller.perform
    cases session.controller.shadow <;> rfl
  rw [Session.request, hperform, ← Console.writeAll_bringUpWrites h.wired]

/-- However far controller and cartridge were out of step, bringing the board up mends it. -/
theorem inStep_bringUp (h : OnBoard board prg chr solder session) :
    InStep board prg solder (session.request .bringUp).2 := by
  have hnext := h.request .bringUp
  have hselect := h.wired.select?_bringUpWrites session.controller.select
  rw [h.request_bringUp] at hnext ⊢
  refine ⟨hnext.board_eq, hnext.prg_eq, hnext.wram_size, hnext.wired, hnext.isSelect, ?_, ?_⟩
  · rw [← h.board_eq] at hselect ⊢
    exact hselect
  · intro shadow hshadow
    cases hshadow
    exact ⟨Shadow.fits_atBringUp board, h.wired.holds_bringUp⟩

end OnBoard

/-! ## Chips that decode alike -/

namespace Chip

/-- The two chips map the same banks to the same addresses, and wire the nametables alike. -/
structure Alike (chip other : Chip) : Prop where
  cpuTarget : ∀ prgSize wramSize addr,
    chip.cpuTarget prgSize wramSize addr = other.cpuTarget prgSize wramSize addr
  chrRef : ∀ addr, chip.chrRef addr = other.chrRef addr
  mirroring : chip.mirroring = other.mirroring

theorem alike_refl (chip : Chip) : chip.Alike chip := ⟨fun _ _ _ => rfl, fun _ => rfl, rfl⟩

end Chip

/-- The shadow speaks of every register of an MMC1. -/
theorem Mmc1.Holds.unique {chip other : Mmc1} {shadow : Shadow} (h : chip.Holds shadow)
    (h' : other.Holds shadow) : chip = other := by
  obtain ⟨shift, count, control, chr0, chr1, prg⟩ := chip
  obtain ⟨shift', count', control', chr0', chr1', prg'⟩ := other
  rw [Mmc1.mk.injEq]
  exact ⟨h.shift.trans h'.shift.symm, h.count.trans h'.count.symm,
    h.control.trans h'.control.symm, h.chr0.trans h'.chr0.symm, h.chr1.trans h'.chr1.symm,
    h.prg.trans h'.prg.symm⟩

/-- The tile latches may differ, but between equal banks they make no difference. -/
theorem Mmc2.Holds.alike {chip other : Mmc2} {board : Board} (hkind : chip.isMmc4 = other.isMmc4)
    (h : chip.Holds (.atBringUp board)) (h' : other.Holds (.atBringUp board)) :
    (Chip.mmc2 chip).Alike (.mmc2 other) := by
  have hprg := h.prg.trans h'.prg.symm
  have hfits := Shadow.fits_atBringUp board
  refine ⟨fun prgSize wramSize addr => ?_, fun addr => ?_, h.mirroring.trans h'.mirroring.symm⟩
  · simp only [Chip.cpuTarget, Mmc2.cpuTarget, Mmc2.prgRef, hkind, hprg]
  · simp only [Chip.chrRef, h.chrBank_eq hfits, h'.chrBank_eq hfits, Shadow.chrBank_atBringUp]

theorem Mmc3.Holds.alike {chip other : Mmc3} {shadow : Shadow} (hfits : shadow.Fits .mmc3)
    (h : chip.Holds shadow) (h' : other.Holds shadow)
    (hselect : Board.mmc3.IsSelect chip.bankSelect)
    (hselect' : Board.mmc3.IsSelect other.bankSelect) :
    (Chip.mmc3 chip).Alike (.mmc3 other) := by
  refine ⟨fun prgSize wramSize addr => ?_, fun addr => ?_, h.mirroring.trans h'.mirroring.symm⟩
  · simp only [Chip.cpuTarget, Mmc3.cpuTarget, h.prgBank_eq hfits hselect,
      h'.prgBank_eq hfits hselect', h.wramEnabled, h'.wramEnabled, h.wramProtected,
      h'.wramProtected]
  · simp only [Chip.chrRef, h.chrBank_eq hfits hselect, h'.chrBank_eq hfits hselect']

theorem Action53.Holds.alike {chip other : Action53} {shadow : Shadow} (h : chip.Holds shadow)
    (h' : other.Holds shadow) : (Chip.action53 chip).Alike (.action53 other) := by
  have hchr := h.chr.trans h'.chr.symm
  have hinner := h.inner.trans h'.inner.symm
  have hmode := h.mode.trans h'.mode.symm
  have houter := h.outer.trans h'.outer.symm
  refine ⟨fun prgSize wramSize addr => ?_, fun addr => ?_, ?_⟩
  · simp only [Chip.cpuTarget, Action53.cpuTarget, Action53.prgBank, Action53.innerBank,
      Action53.outerSpan, hinner, hmode, houter]
  · simp only [Chip.chrRef, hchr]
  · simp only [Chip.mirroring, Action53.mirroring, hmode]

theorem Fme7.Holds.alike {chip other : Fme7} {shadow : Shadow} (h : chip.Holds shadow)
    (h' : other.Holds shadow) : (Chip.fme7 chip).Alike (.fme7 other) := by
  have hlow := h.low.trans h'.low.symm
  have hnametables := h.nametables.trans h'.nametables.symm
  have hprg : chip.prg = other.prg :=
    Vector.ext fun i hi => (h.prg ⟨i, hi⟩).trans (h'.prg ⟨i, hi⟩).symm
  have hchr : chip.chr = other.chr :=
    Vector.ext fun i hi => (h.chr ⟨i, hi⟩).trans (h'.chr ⟨i, hi⟩).symm
  refine ⟨fun prgSize wramSize addr => ?_, fun addr => ?_, ?_⟩
  · simp only [Chip.cpuTarget, Fme7.cpuTarget, Fme7.lowTarget, hlow, hprg]
  · simp only [Chip.chrRef, Fme7.chrBank, hchr]
  · simp only [Chip.mirroring, Fme7.mirroring, hnametables]

namespace Chip.Wired

variable {board : Board} {solder : Mirroring} {chip other : Chip}

/-- All that the decoding depends on is in the shadow that bringing the board up leaves. -/
theorem alike (h : chip.Wired board solder) (h' : other.Wired board solder)
    (hholds : chip.Holds (.atBringUp board)) (hholds' : other.Holds (.atBringUp board))
    (hselect : chip.SelectsOn board) (hselect' : other.SelectsOn board) : chip.Alike other := by
  have hfits := Shadow.fits_atBringUp board
  cases h with
  | nrom =>
    cases h' with
    | nrom => exact alike_refl _
    | discrete hlayout => cases hlayout
  | mmc1 =>
    cases h' with
    | mmc1 =>
      rw [Mmc1.Holds.unique hholds hholds']
      exact alike_refl _
    | discrete hlayout => cases hlayout
  | mmc2 hkind =>
    cases h' with
    | mmc2 hkind' => exact Mmc2.Holds.alike (hkind.trans hkind'.symm) hholds hholds'
    | discrete hlayout => cases hlayout
  | mmc4 hkind =>
    cases h' with
    | mmc4 hkind' => exact Mmc2.Holds.alike (hkind.trans hkind'.symm) hholds hholds'
    | discrete hlayout => cases hlayout
  | mmc3 =>
    cases h' with
    | mmc3 =>
      exact Mmc3.Holds.alike hfits hholds hholds' (hselect _ rfl) (hselect' _ rfl)
    | discrete hlayout => cases hlayout
  | action53 =>
    cases h' with
    | action53 => exact Action53.Holds.alike hholds hholds'
    | discrete hlayout => cases hlayout
  | fme7 =>
    cases h' with
    | fme7 => exact Fme7.Holds.alike hholds hholds'
    | discrete hlayout => cases hlayout
  | discrete hlayout =>
    cases h' with
    | discrete hlayout' =>
      -- The same descriptor gives both latches their layout, and the shadow fills them alike.
      cases hlayout.symm.trans hlayout'
      have hlatch := Discrete.Holds.latch hholds
      have hlatch' := Discrete.Holds.latch hholds'
      dsimp only at hlatch hlatch'
      rw [hlatch, hlatch']
      exact alike_refl _
    | nrom | mmc1 | mmc2 | mmc4 | mmc3 | action53 | fme7 => cases hlayout

end Chip.Wired

/-! ## Two machines -/

/-- From `$8000` on no chip puts the work RAM. -/
theorem Chip.cpuTarget_ne_wram (chip : Chip) {addr : UInt16} (haddr : 0x8000 ≤ addr.toNat)
    (prgSize wramSize : Nat) (writable : Bool) :
    chip.cpuTarget prgSize wramSize addr ≠ .wram writable := by
  intro htarget
  have hin := chip.inWram_of_wram htarget
  rw [inWram_of_le haddr] at hin
  cases hin

namespace Console

variable {console other : Console} {addr : UInt16}

/-- Under chips that decode alike the same PRG memory reads the same. -/
theorem readCpu_of_alike (halike : console.chip.Alike other.chip)
    (hprg : console.cart.hardware.prg = other.cart.hardware.prg)
    (hwram : console.workRam.size = other.workRam.size) (haddr : 0x8000 ≤ addr.toNat) :
    console.readCpu addr = other.readCpu addr := by
  have htarget : console.cart.hardware.cpuTarget addr = other.cart.hardware.cpuTarget addr := by
    have hsizes : console.cart.hardware.wram.size = other.cart.hardware.wram.size := hwram
    rw [Hardware.cpuTarget, Hardware.cpuTarget, hprg, hsizes]
    exact halike.cpuTarget _ _ addr
  rw [console.readCpu_of_le (by omega), other.readCpu_of_le (by omega), Hardware.readCpu,
    Hardware.readCpu, htarget, hprg]
  cases hcase : other.cart.hardware.cpuTarget addr with
  | openBus | prg => rfl
  | wram writable => exact absurd hcase (Chip.cpuTarget_ne_wram _ haddr _ _ writable)

theorem read_of_alike (halike : console.chip.Alike other.chip)
    (hpatterns : console.patterns = other.patterns) (haddr : addr.toNat < 0x2000) :
    console.cart.read addr = other.cart.read addr := by
  have href : console.cart.hardware.chip.chrRef addr = other.cart.hardware.chip.chrRef addr :=
    halike.chrRef addr
  have hchr : console.cart.hardware.chr = other.cart.hardware.chr := hpatterns
  rw [Cartridge.read, Cartridge.read, Hardware.read, Hardware.read, if_pos haddr, if_pos haddr,
    Hardware.readChr, Hardware.readChr, href, hchr]

end Console

namespace OnBoard

variable {board : Board} {prg : Memory} {chr : Chr} {solder : Mirroring}
  {session : Session Console}

/-- The work RAM answers after a bring-up exactly on boards that have one. -/
theorem target_bringUp (h : OnBoard board prg chr solder session) {addr : UInt16}
    (haddr : inWram addr = true) :
    (session.request .bringUp).2.bus.target addr =
      if board.descriptor.hasWram then .wram true else .openBus := by
  have hstep := h.inStep_bringUp
  have hshadow : (session.request .bringUp).2.controller.shadow = some (.atBringUp board) := by
    rw [h.request_bringUp]
  cases hwram : board.descriptor.hasWram with
  | true =>
    rw [hstep.target_wram hshadow hwram haddr, Shadow.wramTarget, Shadow.atBringUp]
    simp only [hwram, if_true]
  | false =>
    rw [Console.target_eq hstep.wram_size]
    exact hstep.wired.cpuTarget_no_wram hwram haddr _

theorem silent_bringUp (h : OnBoard board prg chr solder session) :
    (session.request .bringUp).2.bus.chip.Silent := by
  rw [h.request_bringUp]
  exact h.wired.silent_bringUpWrites

/-- PRG memory and CHR ROM are as they were built; CHR RAM is as it was left. -/
theorem patterns_bringUp (h : OnBoard board prg chr solder session) :
    (session.request .bringUp).2.bus.patterns = session.bus.patterns := by
  rw [h.request_bringUp]
  rfl

end OnBoard

/-! ## Histories -/

/-- Some history leads from power-on to this session: requests, interrupts, accesses to either bus
of the console and raw writes to any address, in any order. -/
def Session.Reachable (board : Board) (prg : Memory) (chr : Chr) (solder : Mirroring)
    (session : Session Console) : Prop :=
  ∃ header, ∃ script : Script Action,
    session = (script.run Action.perform (.powerOn board header prg chr solder)).2

/-- What is known of a board that was just brought up, whatever it went through before. -/
structure Session.Fresh (board : Board) (session : Session Console) : Prop where
  shadow : session.controller.shadow = some (.atBringUp board)
  /-- The line is down, and stays down until an IRQ is asked for. -/
  silent : ∀ script : Script Action, script.Forall Action.SparesIrq →
    (script.run Action.perform session).2.bus.cart.irq = false
  readWram : ∀ addr, inWram addr = true → session.bus.readCpu addr =
    if board.descriptor.hasWram then session.bus.workRam.wramRead addr
    else openBus addr
  writeWram : ∀ addr, inWram addr = true → ∀ data, session.bus.writeCpu addr data =
    if board.descriptor.hasWram then
      { session.bus with cart.hardware := session.bus.cart.hardware.storeWram addr data }
    else session.bus

theorem OnBoard.of_reachable {board : Board} {prg : Memory} {chr : Chr} {solder : Mirroring}
    {session : Session Console} (h : session.Reachable board prg chr solder) :
    OnBoard board prg chr solder session := by
  obtain ⟨header, script, rfl⟩ := h
  exact (OnBoard.powerOn ..).run script

theorem OnBoard.fresh_bringUp {board : Board} {prg : Memory} {chr : Chr} {solder : Mirroring}
    {session : Session Console} (h : OnBoard board prg chr solder session) :
    (session.request .bringUp).2.Fresh board where
  shadow := by rw [h.request_bringUp]
  silent script hscript :=
    ((h.request .bringUp).silent_run h.silent_bringUp hscript).irq_eq
  readWram addr haddr := by
    have htarget := h.target_bringUp haddr
    split
    next hwram =>
      rw [if_pos hwram] at htarget
      exact Console.readCpu_of_wram haddr htarget
    next hwram =>
      rw [if_neg hwram] at htarget
      exact Console.readCpu_of_openBus haddr htarget
  writeWram addr haddr data := by
    have htarget := h.target_bringUp haddr
    split
    next hwram =>
      rw [if_pos hwram] at htarget
      exact Console.writeCpu_of_open haddr htarget data
    next hwram =>
      rw [if_neg hwram] at htarget
      exact Console.writeCpu_of_closed haddr (htarget ▸ nofun) data

/-- Two machines with the same board and the same memories, brought up after whatever histories:
the upper half of the address space, pattern memory and mirroring read the same on both, and both
are in the state that a bring-up leaves, IRQ line, work RAM and shadow included. CHR RAM keeps its
bytes, so they have to agree beforehand. -/
theorem bringUp_erases_history (board : Board) (prg : Memory) (chr chr' : Chr) (solder : Mirroring)
    (first second : Session Console) (hfirst : first.Reachable board prg chr solder)
    (hsecond : second.Reachable board prg chr' solder)
    (hchr : chr.writable = false ∧ chr = chr' ∨ first.bus.patterns = second.bus.patterns) :
    let up (session : Session Console) := session.request .bringUp
    ((up first).1 = .ok () ∧ (up second).1 = .ok ()) ∧
      (∀ addr, 0x8000 ≤ addr.toNat →
        (up first).2.bus.readCpu addr = (up second).2.bus.readCpu addr) ∧
      (∀ addr, addr.toNat < 0x2000 →
        (up first).2.bus.cart.read addr = (up second).2.bus.cart.read addr) ∧
      (up first).2.bus.cart.mirroring = (up second).2.bus.cart.mirroring ∧
      (up first).2.Fresh board ∧ (up second).2.Fresh board := by
  intro up
  have hboard := OnBoard.of_reachable hfirst
  have hboard' := OnBoard.of_reachable hsecond
  have hfresh := hboard.fresh_bringUp
  have hfresh' := hboard'.fresh_bringUp
  have hstep := hboard.inStep_bringUp
  have hstep' := hboard'.inStep_bringUp
  -- The same shadow is in both chips now, and that is all the decoding depends on.
  have halike : (up first).2.bus.chip.Alike (up second).2.bus.chip :=
    hstep.wired.alike hstep'.wired (hstep.shadow _ hfresh.shadow).2
      (hstep'.shadow _ hfresh'.shadow).2 hstep.selectsOn hstep'.selectsOn
  have hprg : (up first).2.bus.cart.hardware.prg = (up second).2.bus.cart.hardware.prg :=
    hstep.prg_eq.trans hstep'.prg_eq.symm
  have hpatterns : (up first).2.bus.patterns = (up second).2.bus.patterns := by
    rw [hboard.patterns_bringUp, hboard'.patterns_bringUp]
    rcases hchr with ⟨hrom, rfl⟩ | hsame
    · rw [hboard.kind.rom hrom, hboard'.kind.rom hrom]
    · exact hsame
  exact ⟨⟨first.request_bringUp, second.request_bringUp⟩,
    fun addr haddr => Console.readCpu_of_alike halike hprg
      (hstep.wram_size.trans hstep'.wram_size.symm) haddr,
    fun addr haddr => Console.read_of_alike halike hpatterns haddr,
    halike.mirroring, hfresh, hfresh'⟩

/-- An MMC3 with its windows swapped, its work RAM off and its IRQ pending, beside one that was only
switched on. -/
theorem bringUp_erases_history_mmc3 :
    let prg := taggedPrg 0x10000
    let chr := Chr.rom (taggedChr 0x2000)
    let header := (Cartridge.ofParts .mmc3 prg chr .vertical).header
    let start := Session.powerOn .mmc3 header prg chr .vertical
    let script : Script Action :=
      .act (.writeCpu 0x8000 0xC6) (.act (.writeCpu 0x8001 0x05) (.act (.writeCpu 0xA001 0x00)
        (.act (.writeCpu 0xC001 0x00) (.act (.writeCpu 0xE001 0x00) (.act (.readPpu 0x1000)
          .done)))))
    let dirty := (script.run Action.perform start).2
    (dirty.Reachable .mmc3 prg chr .vertical ∧ start.Reachable .mmc3 prg chr .vertical ∧
        (chr.writable = false ∧ chr = chr ∨ dirty.bus.patterns = start.bus.patterns)) ∧
      dirty.bus.cart.irq = true ∧ (dirty.request .bringUp).2.bus.cart.irq = false ∧
        ∀ addr, 0x8000 ≤ addr.toNat → (dirty.request .bringUp).2.bus.readCpu addr =
          (start.request .bringUp).2.bus.readCpu addr := by
  intro prg chr header start script dirty
  have hdirty : dirty.Reachable .mmc3 prg chr .vertical := ⟨header, script, rfl⟩
  have hstart : start.Reachable .mmc3 prg chr .vertical := ⟨header, .done, rfl⟩
  have hchr : chr.writable = false ∧ chr = chr ∨ dirty.bus.patterns = start.bus.patterns :=
    Or.inl ⟨rfl, rfl⟩
  obtain ⟨-, hreads, -, -, hfresh, -⟩ :=
    bringUp_erases_history .mmc3 prg chr chr .vertical dirty start hdirty hstart hchr
  exact ⟨⟨hdirty, hstart, hchr⟩, rfl, hfresh.silent .done trivial, hreads⟩

end NesCartridge
