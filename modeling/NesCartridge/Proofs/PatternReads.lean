/-
  NesCartridge.Proofs.PatternReads

  What the PPU reads and writes in pattern memory in any run, on boards without tile latches.
  Each CHR window shows the bank that the controller selected last; a write through it changes
  that one cell of CHR RAM and nothing of CHR ROM; and only such writes change pattern memory, so
  what was stored is found again whatever banks were selected in between
  (`patterns_refine_history`). On the boards that keep the bank in a latch which the ROM drives as
  well there has to be a ROM (`cnRom_bank_needs_prg`).
-/
import NesCartridge.Proofs.ChrDecoding
import NesCartridge.Proofs.PrgReads

namespace NesCartridge

/-! ## What happens to pattern memory -/

/-- Only PPU writes below `$2000` reach pattern memory: no request does, and no CPU write. -/
theorem Script.patterns_run {script : Script Action}
    (hpatterns : script.Forall Action.SparesPatterns) (session : Session Console) :
    (script.run Action.perform session).2.bus.patterns = session.bus.patterns := by
  refine Script.run_keeps (Q := fun console => console.patterns = session.bus.patterns)
    (fun console addr data h => (console.chr_writeCpu addr data).trans h) ?_ hpatterns rfl
  intro action haction hrequest now hnow
  refine Eq.trans ?_ hnow
  cases action with
  | request req => exact absurd rfl (hrequest req)
  | readCpu addr => rfl
  | writeCpu addr data => exact now.bus.chr_writeCpu addr data
  | readPpu addr => exact now.bus.chr_readPpu addr
  | writePpu addr data => exact congrArg (·.hardware.chr) (now.bus.writePpu_of_le haction data)
  | tick cycles =>
    show (now.bus.tick cycles).patterns = _
    rw [Console.tick_eq]
    rfl

/-! ## Windows of pattern memory -/

/-- A CHR window lies in pattern memory. -/
theorem Board.chrWindow_place {board : Board} {number : Nat} {window : Window}
    (hwindow : board.descriptor.chrWindows[number]? = some window) :
    window.base.toNat + window.size ≤ 0x2000 := by
  have hregistry : ∀ window ∈ board.descriptor.chrWindows,
      window.base.toNat + window.size ≤ 0x2000 := by
    cases board <;> decide
  exact hregistry window (List.mem_of_getElem? hwindow)

theorem Board.latch_eq_none {board : Board} (h : board.descriptor.hasTileLatches = false)
    {number : Nat} {window : Window}
    (hwindow : board.descriptor.chrWindows[number]? = some window) : window.latch = none := by
  have hnone := List.any_eq_false.mp h window (List.mem_of_getElem? hwindow)
  exact Option.not_isSome_iff_eq_none.mp hnone

namespace InStep

variable {board : Board} {prg : Memory} {solder : Mirroring} {session : Session Console}
  {shadow : Shadow} {number : Nat} {window : Window} {offset : Nat}

/-- The cell behind an address in a window without a latch. -/
theorem patternCell_window (h : InStep board prg solder session)
    (hshadow : session.controller.shadow = some shadow)
    (hwindow : board.descriptor.chrWindows[number]? = some window) (hlatch : window.latch = none)
    (hoffset : offset < window.size) {length : Nat} (hpos : 0 < length) (hdvd : 0x2000 ∣ length) :
    let addr := window.base + UInt16.ofNat offset
    let ref := session.bus.chip.chrRef addr
    bankedIndex length ref.bank ref.size addr.toNat =
      (shadow.chrBank number * window.size + offset) % length := by
  intro addr ref
  obtain ⟨hfits, hholds⟩ := h.shadow shadow hshadow
  have hend := Board.chrWindow_place hwindow
  have haddr : addr.toNat = window.base.toNat + offset :=
    Window.toNat_base_add hoffset (by omega)
  have hcell := h.wired.chrCell_window hholds hfits h.selectsOn hwindow hlatch
    (Window.covers_base_add hoffset (by omega)) hpos hdvd
  rw [hcell, Window.chrCell, haddr, Nat.add_sub_cancel_left]

theorem window_addr_lt (hwindow : board.descriptor.chrWindows[number]? = some window)
    (hoffset : offset < window.size) :
    (window.base + UInt16.ofNat offset).toNat % 0x4000 < 0x2000 ∧
      Console.ppuAddr (window.base + UInt16.ofNat offset) = window.base + UInt16.ofNat offset := by
  have hend := Board.chrWindow_place hwindow
  have haddr : (window.base + UInt16.ofNat offset).toNat = window.base.toNat + offset :=
    Window.toNat_base_add hoffset (by omega)
  exact ⟨by omega, Console.ppuAddr_of_lt (by omega)⟩

/-- A window without a latch reads the bank in the shadow. -/
theorem readPpu_window (h : InStep board prg solder session)
    (hshadow : session.controller.shadow = some shadow)
    (hwindow : board.descriptor.chrWindows[number]? = some window) (hlatch : window.latch = none)
    (hoffset : offset < window.size) (hpos : 0 < session.bus.patterns.cells.size)
    (hdvd : 0x2000 ∣ session.bus.patterns.cells.size) :
    session.bus.patterns.cells[(shadow.chrBank number * window.size + offset) %
        session.bus.patterns.cells.size]? =
      some (session.bus.readPpu (window.base + UInt16.ofNat offset)).1 := by
  obtain ⟨hlt, hself⟩ := window_addr_lt hwindow hoffset
  have hcell := h.patternCell_window hshadow hwindow hlatch hoffset hpos hdvd
  dsimp only at hcell
  rw [Console.readPpu_of_lt _ hlt, hself, ← hcell]
  exact Memory.getElem?_bankedIndex hpos ..

/-- A write through a window without a latch changes the cell that the window reads there. -/
theorem writePpu_window (h : InStep board prg solder session)
    (hshadow : session.controller.shadow = some shadow)
    (hwindow : board.descriptor.chrWindows[number]? = some window) (hlatch : window.latch = none)
    (hoffset : offset < window.size) (hpos : 0 < session.bus.patterns.cells.size)
    (hdvd : 0x2000 ∣ session.bus.patterns.cells.size) (value : UInt8) :
    (session.bus.writePpu (window.base + UInt16.ofNat offset) value).patterns =
      if session.bus.patterns.writable then
        { session.bus.patterns with
          cells := session.bus.patterns.cells.setIfInBounds
            ((shadow.chrBank number * window.size + offset) % session.bus.patterns.cells.size)
            value }
      else session.bus.patterns := by
  obtain ⟨hlt, hself⟩ := window_addr_lt hwindow hoffset
  have hcell := h.patternCell_window hshadow hwindow hlatch hoffset hpos hdvd
  dsimp only at hcell
  rw [Console.writePpu_of_lt _ hlt, hself, ← hcell, ← Memory.setBanked_eq_setIfInBounds hpos]
  rfl

/-- The bank that the controller names for a window. -/
theorem chrBank_eq (h : InStep board prg solder session)
    (hshadow : session.controller.shadow = some shadow)
    (hwindow : board.descriptor.chrWindows[number]? = some window) :
    session.controller.chrBank number = .ok (shadow.chrBank number) := by
  rw [Controller.chrBank, Controller.ready, hshadow, h.board_eq, Descriptor.window, hwindow]
  rfl

end InStep

/-- Three boards let the ROM drive the lines of a latch with a CHR bank in it. -/
theorem Memory.quiet_of_chrWindow {board : Board} {prg : Memory} {number : Nat} {window : Window}
    (hwindow : board.descriptor.chrWindows[number]? = some window)
    (h : board.descriptor.busConflicts = true → board ∈ [.cnRom, .colorDreams, .gnRom] →
      PrgLength prg.size ∧ prg.HasIdentityTables) : prg.Quiet board := by
  intro hconflicts
  refine h hconflicts ?_
  cases board with
  | cnRom | colorDreams | gnRom => decide
  | uxRom | axRom | bnRom => cases hwindow
  | nrom | mmc1 | mmc3 | mmc2 | mmc4 | action53 | unrom512 | fme7 => cases hconflicts

/-- From the first bring-up on, through any run that leaves the mapper registers to the
controller, every CHR window shows the last bank accepted for it; a write through it changes that
one cell of CHR RAM and nothing of CHR ROM; and no run without pattern writes changes a byte. -/
theorem patterns_refine_history (board : Board) (prg : Memory) (chr : Chr) (solder : Mirroring)
    (hlatches : board.descriptor.hasTileLatches = false)
    (hlength : board.descriptor.busConflicts = true →
      (∃ k, prg.size = 2 ^ k ∧ 0x2000 ≤ prg.size) ∨ 0x8000 ∣ prg.size)
    (htables : board.descriptor.busConflicts = true → prg.HasIdentityTables)
    (hprg : board ∈ [.cnRom, .colorDreams, .gnRom] → 0 < prg.size)
    (hpos : 0 < chr.cells.size) (hdvd : 0x2000 ∣ chr.cells.size)
    (script : Script Action) (hspares : script.Forall Action.SparesRegisters) :
    let ran := (Script.act (.request .bringUp) script).run Action.perform
      (Session.start board (Console.powerOn (Cartridge.ofParts board prg chr solder)))
    let patterns := ran.2.bus.patterns
    chr.SameKind patterns ∧
      (∀ number window, board.descriptor.chrWindows[number]? = some window →
        ran.2.controller.chrBank number = .ok (ran.1.chrBank number) ∧
          ∀ offset < window.size,
            let addr := window.base + UInt16.ofNat offset
            let cell := (ran.1.chrBank number * window.size + offset) % chr.cells.size
            patterns.cells[cell]? = some (ran.2.bus.readPpu addr).1 ∧
              ∀ value, (ran.2.bus.writePpu addr value).patterns =
                if chr.writable then
                  { patterns with cells := patterns.cells.setIfInBounds cell value }
                else chr) ∧
      ∀ more : Script Action, more.Forall Action.SparesPatterns →
        (more.run Action.perform ran.2).2.bus.patterns = patterns := by
  intro ran patterns
  let start := Session.start board (Console.powerOn (Cartridge.ofParts board prg chr solder))
  have hsame : start.bus.SameCart ran.2.bus :=
    Script.sameCart_run (.act (.request .bringUp) script) start
  have hkind : chr.SameKind patterns := hsame.patterns
  refine ⟨hkind, fun number window hwindow => ?_, fun more hpatterns =>
    Script.patterns_run hpatterns ran.2⟩
  have hquiet : prg.Quiet board := Memory.quiet_of_chrWindow hwindow fun hconflicts hboard =>
    ⟨(hlength hconflicts).imp_right fun hpages => ⟨hprg hboard, hpages⟩, htables hconflicts⟩
  have hstart : InStep board prg solder start := InStep.start rfl
  obtain ⟨hstep, shadow, hshadow, -, hbanks⟩ := Tracks.run hstart hquiet hspares
  have hbank : ran.1.chrBank number = shadow.chrBank number := (hbanks number).symm
  have hlatch := Board.latch_eq_none hlatches hwindow
  have hsize : ran.2.bus.patterns.cells.size = chr.cells.size := hkind.size
  have hwritable : ran.2.bus.patterns.writable = chr.writable := hkind.writable
  have hpos' : 0 < ran.2.bus.patterns.cells.size := hsize.symm ▸ hpos
  have hdvd' : 0x2000 ∣ ran.2.bus.patterns.cells.size := hsize.symm ▸ hdvd
  refine ⟨hbank ▸ hstep.chrBank_eq hshadow hwindow, fun offset hoffset => ⟨?_, fun value => ?_⟩⟩
  · have hread := hstep.readPpu_window hshadow hwindow hlatch hoffset hpos' hdvd'
    rw [hsize] at hread
    rw [hbank]
    exact hread
  · have hwrite := hstep.writePpu_window hshadow hwindow hlatch hoffset hpos' hdvd' value
    rw [hsize, hwritable] at hwrite
    rw [hwrite, hbank]
    -- ROM is of its kind only as the very memory that the cartridge was built with.
    cases hrom : chr.writable with
    | true => rfl
    | false => exact hkind.rom hrom

/-- PRG and CHR bank share the latch of this board; a handler moves one and not the other. -/
theorem patterns_refine_history_gnRom :
    let prg := taggedPrg 0x8000
    let chr := Chr.ram 0x8000
    let script : Script Action :=
      .act (.request (.selectChr 0 2))
        (.handler (.act (.request (.selectPrg 0 1)) .done) (.act (.writePpu 0x0010 0x77) .done))
    let ran := (Script.act (.request .bringUp) script).run Action.perform
      (Session.start .gnRom (Console.powerOn (Cartridge.ofParts .gnRom prg chr .vertical)))
    Board.gnRom.descriptor.hasTileLatches = false ∧ 0x8000 ∣ prg.size ∧ prg.HasIdentityTables ∧
      0 < prg.size ∧ 0 < chr.cells.size ∧ 0x2000 ∣ chr.cells.size ∧
        script.Forall Action.SparesRegisters ∧ ran.2.controller.chrBank 0 = .ok 2 ∧
          ∀ offset < 0x2000, ran.2.bus.patterns.cells[(2 * 0x2000 + offset) % 0x8000]? =
            some (ran.2.bus.readPpu (0x0000 + UInt16.ofNat offset)).1 := by
  intro prg chr script ran
  have hlength : prg.size = 0x8000 := size_taggedPrg 0x8000
  have hpages : 0x8000 ∣ prg.size := by rw [hlength]
  have hprg : 0 < prg.size := by rw [hlength]; decide
  have htables := hasIdentityTables_taggedPrg 0x8000
  have hsize : chr.cells.size = 0x8000 := Array.size_replicate
  have hpos : 0 < chr.cells.size := by rw [hsize]; decide
  have hdvd : 0x2000 ∣ chr.cells.size := by rw [hsize]; decide
  have hspares : script.Forall Action.SparesRegisters :=
    ⟨trivial, ⟨trivial, trivial⟩, trivial, trivial⟩
  have hreads := (patterns_refine_history .gnRom prg chr .vertical rfl (fun _ => Or.inr hpages)
    (fun _ => htables) (fun _ => hprg) hpos hdvd script hspares).2.1 0 _ rfl
  have hbank : ran.1.chrBank 0 = 2 := rfl
  refine ⟨rfl, hpages, htables, hprg, hpos, hdvd, hspares,
    hreads.1.trans (congrArg Except.ok hbank), fun offset hoffset => ?_⟩
  have hread : ran.2.bus.patterns.cells[(ran.1.chrBank 0 * 0x2000 + offset) % chr.cells.size]? =
      some (ran.2.bus.readPpu (0x0000 + UInt16.ofNat offset)).1 := (hreads.2 offset hoffset).1
  rwa [hbank, hsize] at hread

/-- Without PRG memory the data lines read as zero and the latch takes no other byte: the
controller has selected bank 1 and the window still shows bank 0. -/
theorem cnRom_bank_needs_prg :
    let prg : Memory := #[]
    let chr := Chr.rom (taggedChr 0x4000)
    let script : Script Action := .act (.request (.selectChr 0 1)) .done
    let ran := (Script.act (.request .bringUp) script).run Action.perform
      (Session.start .cnRom (Console.powerOn (Cartridge.ofParts .cnRom prg chr .horizontal)))
    Board.cnRom.descriptor.hasTileLatches = false ∧ 0x8000 ∣ prg.size ∧ prg.HasIdentityTables ∧
      0 < chr.cells.size ∧ 0x2000 ∣ chr.cells.size ∧ script.Forall Action.SparesRegisters ∧
        ran.2.controller.chrBank 0 = .ok 1 ∧
          chr.cells[(1 * 0x2000 + 0) % chr.cells.size]? = some 8 ∧
            (ran.2.bus.readPpu (0x0000 + UInt16.ofNat 0)).1 = 0 := by
  intro prg chr script ran
  have hsize : chr.cells.size = 0x4000 := by simp only [chr, Chr.rom, size_taggedChr]
  have hpos : 0 < chr.cells.size := by rw [hsize]; decide
  have hdvd : 0x2000 ∣ chr.cells.size := by rw [hsize]; decide
  -- Pages of 1 KiB are numbered, so bank 1 starts with page 8.
  have hpages : chr.cells.HasPageTags chrPageSize := by
    simp only [chr, Chr.rom, hasPageTags_taggedChr]
  have hfirst : chr.cells[0]? = some 0 := hpages 0 (by rw [hsize]; decide)
  have hsecond : chr.cells[0x2000]? = some 8 := hpages 8 (by rw [hsize]; decide)
  refine ⟨rfl, Nat.dvd_zero _, Memory.hasIdentityTables_empty, hpos, hdvd, ⟨trivial, trivial⟩, rfl,
    by rw [hsize]; exact hsecond, ?_⟩
  have hchip : ran.2.bus.chip.chrRef 0x0000 = ⟨0, 0x2000⟩ := by decide
  have hpatterns : ran.2.bus.patterns = chr :=
    (Script.sameCart_run (.act (.request .bringUp) script) _).patterns.rom rfl
  rw [Console.readPpu_of_lt _ (by decide)]
  let ref := ran.2.bus.chip.chrRef 0x0000
  show ran.2.bus.patterns.read ref.bank ref.size 0 = 0
  rw [hpatterns, show ref = ⟨0, 0x2000⟩ from hchip]
  have hshown := Memory.getElem?_bankedIndex hpos 0 0x2000 0
  rw [hsize] at hshown
  exact Option.some.inj (hshown.symm.trans hfirst)

end NesCartridge
