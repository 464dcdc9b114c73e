/-
  NesCartridge.Proofs.PrgReads

  What the CPU reads at `$8000`–`$FFFF` in any run. Once the board has been brought up, each PRG
  window reads the bank that the controller selected last, byte for byte, and everything outside
  the windows reads a part of the memory that never moves (`readCpu_refines_history`). Failed
  requests, handlers, further bring-ups and accesses in between make no difference.
-/
import NesCartridge.Proofs.InStep
import NesCartridge.Proofs.PrgDecoding
import NesCartridge.Proofs.TaggedImage

namespace NesCartridge

/-! ## Addresses in a window -/

/-- Byte `offset` of a window that ends inside the address space. -/
theorem Window.toNat_base_add {window : Window} {offset : Nat} (hoffset : offset < window.size)
    (hend : window.base.toNat + window.size ≤ 0x10000) :
    (window.base + UInt16.ofNat offset).toNat = window.base.toNat + offset := by
  have hsmall : (UInt16.ofNat offset).toNat = offset :=
    UInt16.toNat_ofNat_of_lt' (show offset < 0x10000 by omega)
  rw [UInt16.toNat_add, hsmall]
  exact Nat.mod_eq_of_lt (by omega)

theorem Window.covers_base_add {window : Window} {offset : Nat} (hoffset : offset < window.size)
    (hend : window.base.toNat + window.size ≤ 0x10000) :
    window.Covers (window.base + UInt16.ofNat offset) := by
  have haddr := toNat_base_add hoffset hend
  exact ⟨by omega, by omega⟩

/-- A PRG window lies in the upper half of the address space, at a multiple of its size, which is
a power of two up to 32 KiB. -/
theorem Board.prgWindow_place {board : Board} {number : Nat} {window : Window}
    (hwindow : board.descriptor.prgWindows[number]? = some window) :
    0x8000 ≤ window.base.toNat ∧ window.base.toNat + window.size ≤ 0x10000 ∧
      window.base.toNat % window.size = 0 ∧ ∃ j ≤ 15, window.size = 2 ^ j := by
  have hregistry : ∀ window ∈ board.descriptor.prgWindows,
      0x8000 ≤ window.base.toNat ∧ window.base.toNat + window.size ≤ 0x10000 ∧
        window.base.toNat % window.size = 0 ∧ ∃ j ≤ 15, window.size = 2 ^ j := by
    cases board <;> decide
  exact hregistry window (List.mem_of_getElem? hwindow)

/-! ## Reads of the upper half -/

theorem Console.readCpu_of_prg {console : Console} {addr : UInt16} {ref : BankRef}
    (haddr : 0x8000 ≤ addr.toNat)
    (htarget : console.cart.hardware.cpuTarget addr = .prg ref) :
    console.readCpu addr = console.cart.hardware.prg.banked ref.bank ref.size addr.toNat := by
  rw [console.readCpu_of_le (by omega), Hardware.readCpu, htarget]

namespace InStep

variable {board : Board} {prg : Memory} {solder : Mirroring} {session : Session Console}
  {shadow : Shadow}

/-- While controller and cartridge are in step, a window reads the bank in the shadow. -/
theorem readCpu_window (h : InStep board prg solder session) (hprg : PrgLength prg.size)
    (hshadow : session.controller.shadow = some shadow) {number : Nat} {window : Window}
    (hwindow : board.descriptor.prgWindows[number]? = some window) {offset : Nat}
    (hoffset : offset < window.size) :
    prg[(shadow.prgBank number * window.size + offset) % prg.size]? =
      some (session.bus.readCpu (window.base + UInt16.ofNat offset)) := by
  obtain ⟨hfits, hholds⟩ := h.shadow shadow hshadow
  obtain ⟨hlow, hend, halign, j, hj, hsize⟩ := Board.prgWindow_place hwindow
  have haddr := Window.toNat_base_add hoffset hend
  have htarget := h.wired.cpuTarget_window hholds hfits h.selectsOn hwindow
    (Window.covers_base_add hoffset hend) session.bus.cart.hardware.prg.size
    session.bus.cart.hardware.wram.size
  have hread := Console.readCpu_of_prg (by omega) htarget
  -- The window is aligned, so the offset in it is the offset in the bank.
  have hinside : (window.base.toNat + offset) % window.size = offset := by
    rw [Nat.add_mod, halign, Nat.zero_add, Nat.mod_mod, Nat.mod_eq_of_lt hoffset]
  have hcell := bankedIndex_eq_mod hprg.pos (hsize ▸ Nat.two_pow_pos j)
    (hsize ▸ hprg.fits hj) (shadow.prgBank number) (window.base.toNat + offset)
  rw [hinside] at hcell
  rw [hread, h.prg_eq, haddr, ← hcell]
  exact Memory.getElem?_bankedIndex hprg.pos ..

/-- The rest of the upper half reads the fixed part of the memory. -/
theorem readCpu_fixed (h : InStep board prg solder session) (hprg : PrgLength prg.size)
    (hshadow : session.controller.shadow = some shadow) {addr : UInt16}
    (haddr : 0x8000 ≤ addr.toNat)
    (hout : ∀ window ∈ board.descriptor.prgWindows, ¬ window.Covers addr) :
    prg[board.fixedCell prg.size addr]? = some (session.bus.readCpu addr) := by
  obtain ⟨hfits, hholds⟩ := h.shadow shadow hshadow
  obtain ⟨ref, htarget, hcell⟩ := h.wired.showsFixed hholds hfits h.selectsOn hprg
    session.bus.cart.hardware.wram.size haddr hout
  rw [← h.prg_eq] at htarget
  have hread := Console.readCpu_of_prg haddr htarget
  rw [hread, h.prg_eq, ← hcell]
  exact Memory.getElem?_bankedIndex hprg.pos ..

/-- The bank that the controller names for a window. -/
theorem prgBank_eq (h : InStep board prg solder session)
    (hshadow : session.controller.shadow = some shadow) {number : Nat} {window : Window}
    (hwindow : board.descriptor.prgWindows[number]? = some window) :
    session.controller.prgBank number = .ok (shadow.prgBank number) := by
  rw [Controller.prgBank, Controller.ready, hshadow, h.board_eq, Descriptor.window, hwindow]
  rfl

end InStep

/-- From the first bring-up on, through any run that leaves the mapper registers to the
controller, every PRG window shows the last bank accepted for it and the rest of the upper half of
the address space stays as it is. -/
theorem readCpu_refines_history (board : Board) (prg : Memory) (chr : Chr) (solder : Mirroring)
    (hprg : PrgLength prg.size)
    (htables : board.descriptor.busConflicts = true → prg.HasIdentityTables)
    (script : Script Action) (hspares : script.Forall Action.SparesRegisters) :
    let ran := (Script.act (.request .bringUp) script).run Action.perform
      (Session.start board (Console.powerOn (Cartridge.ofParts board prg chr solder)))
    (∀ number window, board.descriptor.prgWindows[number]? = some window →
      ran.2.controller.prgBank number = .ok (ran.1.prgBank number) ∧
        ∀ offset < window.size,
          prg[(ran.1.prgBank number * window.size + offset) % prg.size]? =
            some (ran.2.bus.readCpu (window.base + UInt16.ofNat offset))) ∧
      ∀ addr, 0x8000 ≤ addr.toNat →
        (∀ window ∈ board.descriptor.prgWindows, ¬ window.Covers addr) →
          prg[board.fixedCell prg.size addr]? = some (ran.2.bus.readCpu addr) := by
  intro ran
  -- Boards without bus conflicts ask nothing of the contents of the memory.
  have hquiet : prg.Quiet board := fun hconflicts => ⟨hprg, htables hconflicts⟩
  have hstart : InStep board prg solder
      (Session.start board (Console.powerOn (Cartridge.ofParts board prg chr solder))) :=
    InStep.start rfl
  obtain ⟨hstep, shadow, hshadow, hbanks, -⟩ := Tracks.run hstart hquiet hspares
  refine ⟨fun number window hwindow => ?_, fun addr haddr hout => ?_⟩
  · have hbank : ran.1.prgBank number = shadow.prgBank number := (hbanks number).symm
    rw [hbank]
    exact ⟨hstep.prgBank_eq hshadow hwindow,
      fun offset hoffset => hstep.readCpu_window hprg hshadow hwindow hoffset⟩
  · exact hstep.readCpu_fixed hprg hshadow haddr hout

/-- Bank 3 is selected, a handler is refused bank 16 and takes bank 1, and bank 1 stays. -/
theorem readCpu_refines_history_uxRom :
    let prg := taggedPrg 0x10000
    let script : Script Action :=
      .act (.request (.selectPrg 0 3))
        (.handler (.act (.request (.selectPrg 0 16)) (.act (.request (.selectPrg 0 1)) .done))
          (.act (.writeCpu 0x6000 0x55) .done))
    let ran := (Script.act (.request .bringUp) script).run Action.perform
      (Session.start .uxRom
        (Console.powerOn (Cartridge.ofParts .uxRom prg (.ram 0x2000) .vertical)))
    PrgLength prg.size ∧ prg.HasIdentityTables ∧ script.Forall Action.SparesRegisters ∧
      ran.2.controller.prgBank 0 = .ok 1 ∧
        ∀ offset < 0x4000, prg[(0x4000 + offset) % 0x10000]? =
          some (ran.2.bus.readCpu (0x8000 + UInt16.ofNat offset)) := by
  intro prg script ran
  have hlength : PrgLength prg.size := by
    rw [size_taggedPrg]
    exact Or.inr ⟨by decide, by decide⟩
  have htables := hasIdentityTables_taggedPrg 0x10000
  have hspares : script.Forall Action.SparesRegisters :=
    ⟨trivial, ⟨trivial, trivial, trivial⟩, Or.inr rfl, trivial⟩
  have hreads := (readCpu_refines_history .uxRom prg (.ram 0x2000) .vertical hlength
    (fun _ => htables) script hspares).1 0 _ rfl
  have hbank : ran.1.prgBank 0 = 1 := rfl
  refine ⟨hlength, htables, hspares, hreads.1.trans (congrArg Except.ok hbank),
    fun offset hoffset => ?_⟩
  have hread : prg[(ran.1.prgBank 0 * 0x4000 + offset) % prg.size]? =
      some (ran.2.bus.readCpu (0x8000 + UInt16.ofNat offset)) := hreads.2 offset hoffset
  rwa [hbank, Nat.one_mul, size_taggedPrg] at hread

end NesCartridge
