/-
  NesCartridge.Proofs.Irq.Silence

  IRQ lines that stay down. Bringing a board up stops its counter and takes a pending IRQ back
  (`Chip.Wired.silent_bringUpWrites`), and nothing but the two IRQ requests and a raw register write
  raises the line again (`OnBoard.silent_run`).
-/
import NesCartridge.Proofs.Irq.Counters
import NesCartridge.Proofs.OnBoard

namespace NesCartridge

namespace Chip

/-- The line is down, and the counter is in no state to raise it. -/
def Silent : Chip → Prop
  | .mmc3 c => c.irqEnabled = false ∧ c.irqPending = false
  | .fme7 c => c.irqCounting = false ∧ c.irqPending = false
  | _ => True

namespace Silent

variable {chip : Chip}

theorem irq_eq (h : chip.Silent) : chip.irq = false := by
  cases chip with
  | mmc3 | fme7 => exact h.2
  | nrom | mmc1 | mmc2 | action53 | discrete => rfl

/-- The IRQ registers are all above `$8000`. -/
theorem write (h : chip.Silent) {addr : UInt16} (haddr : addr.toNat < 0x8000) (data : UInt8) :
    (chip.write addr data).Silent := by
  cases chip with
  | mmc3 c =>
    have hkeep : c.write addr data = c := by
      rw [Mmc3.write]
      simp only [haddr, if_true]
    show Silent (.mmc3 (c.write addr data))
    rwa [hkeep]
  | fme7 c =>
    show Silent (.fme7 (c.write addr data))
    rwa [Fme7.write, if_pos haddr]
  | nrom | mmc1 | mmc2 | action53 | discrete => exact trivial

/-- Rises are counted, but come to nothing. -/
theorem fetched (h : chip.Silent) (addr : UInt16) : (chip.fetched addr).Silent := by
  cases chip with
  | mmc3 c =>
    obtain ⟨hmask, hline⟩ := h
    have hclock : c.clockIrq.irqEnabled = false ∧ c.clockIrq.irqPending = false := by
      refine ⟨hmask, ?_⟩
      show (c.irqPending || (_ && c.irqEnabled)) = false
      rw [hline, hmask, Bool.and_false, Bool.or_false]
    simp only [Chip.fetched, Mmc3.fetched]
    split
    · exact hclock
    · exact ⟨hmask, hline⟩
  | nrom | mmc1 | mmc2 | action53 | fme7 | discrete => exact h

theorem clocks (h : chip.Silent) (cycles : Nat) : (cycles.repeat clock chip).Silent := by
  induction cycles with
  | zero => exact h
  | succ cycles ih =>
    show (clock (cycles.repeat clock chip)).Silent
    generalize cycles.repeat clock chip = now at ih
    cases now with
    | fme7 c =>
      have hstill : c.clock = c := by rw [Fme7.clock, ih.1, if_neg Bool.false_ne_true]
      show Silent (.fme7 c.clock)
      rwa [hstill]
    | nrom | mmc1 | mmc2 | mmc3 | action53 | discrete => exact ih

theorem onChip (h : chip.Silent) (action : Action) : (action.onChip chip).Silent := by
  rw [Action.onChip]
  cases action.patternAddr? with
  | some addr => exact (h.fetched addr).clocks _
  | none => exact h.clocks _

theorem withSelect (h : chip.Silent) (byte : UInt8) : (chip.withSelect byte).Silent := by
  cases chip <;> exact h

end Silent

namespace Wired

variable {board : Board} {solder : Mirroring} {chip : Chip}

/-- A board without a counter has no line to raise. -/
theorem silent_of_no_irq (h : chip.Wired board solder)
    (hirq : board.descriptor.supportsIrq = false) : chip.Silent := by
  cases h with
  | mmc3 | fme7 => cases hirq
  | nrom | mmc1 | mmc2 | mmc4 | action53 | discrete => exact trivial

/-- The last of the writes that bring a board up stop the counter, whatever it did before. -/
theorem silent_bringUpWrites (h : chip.Wired board solder) :
    (chip.writeAll board.bringUpWrites).Silent := by
  have hnext := h.writeAll board.bringUpWrites
  cases h with
  | mmc3 | fme7 => exact ⟨rfl, rfl⟩
  | nrom | mmc1 | mmc2 | mmc4 | action53 => exact hnext.silent_of_no_irq rfl
  | discrete hlayout => exact hnext.silent_of_no_irq (Discrete.features_eq hlayout).2

/-- No accepted request but the two about IRQs ends the silence. -/
theorem silent_answers (h : chip.Wired board solder) (hsilent : chip.Silent)
    {shadow after : Shadow} {req : Request} {writes : List RegisterWrite}
    (hans : board.Answers shadow req after writes)
    (hreq : req = .bringUp ∨ req.LeavesCounter) : (chip.writeAll writes).Silent := by
  have hnext := h.writeAll writes
  rcases hreq with rfl | hreq
  · cases hans
    exact h.silent_bringUpWrites
  cases h with
  | @mmc3 _ c =>
    obtain ⟨next, heq, bankSelect, banks, mirroring, wramEnabled, wramProtected, rfl⟩ :=
      c.sameCounter_answers hans hreq
    rw [heq]
    exact hsilent
  | @fme7 _ c =>
    obtain ⟨next, heq, command, chr, low, prg, nametables, rfl⟩ :=
      c.sameCounter_answers hans hreq
    rw [heq]
    exact hsilent
  | nrom | mmc1 | mmc2 | mmc4 | action53 => exact hnext.silent_of_no_irq rfl
  | discrete hlayout => exact hnext.silent_of_no_irq (Discrete.features_eq hlayout).2

end Wired

end Chip

/-! ## Whole runs -/

/-- The action asks for no IRQ and writes no register above `$8000` itself. -/
def Action.SparesIrq : Action → Prop
  | request (.configureIrq ..) | request .acknowledgeIrq => False
  | writeCpu addr _ => addr.toNat < 0x8000
  | _ => True

namespace Console

/-- Below `$8000` the chip is the only one to hear of a CPU write, and it keeps silent. -/
theorem silent_writeCpu {console : Console} (h : console.chip.Silent) {addr : UInt16}
    (haddr : addr.toNat < 0x8000) (data : UInt8) : (console.writeCpu addr data).chip.Silent := by
  obtain ⟨ram, wram, seen, heq⟩ := console.exists_writeCpu addr data
  rw [heq]
  exact h.write haddr seen

end Console

namespace OnBoard

variable {board : Board} {prg : Memory} {chr : Chr} {solder : Mirroring}
  {session : Session Console}

theorem silent_request (h : OnBoard board prg chr solder session)
    (hsilent : session.bus.chip.Silent) {req : Request}
    (hreq : req = .bringUp ∨ req.LeavesCounter) :
    (session.request req).2.bus.chip.Silent := by
  cases hirq : board.descriptor.supportsIrq with
  | false => exact (h.request req).wired.silent_of_no_irq hirq
  | true =>
    rcases h.chip_request (Memory.quiet_of_irq hirq prg) req with
      heq | ⟨current, after, writes, hans, heq⟩
    · rwa [heq]
    · rw [heq]
      exact h.wired.silent_answers hsilent hans hreq

theorem silent_perform (h : OnBoard board prg chr solder session)
    (hsilent : session.bus.chip.Silent) {action : Action} (haction : action.SparesIrq) :
    (action.perform session).2.bus.chip.Silent := by
  cases action with
  | request req =>
    cases req with
    | configureIrq | acknowledgeIrq => exact haction.elim
    | bringUp => exact h.silent_request hsilent (Or.inl rfl)
    | selectPrg | selectChr | setMirroring | setWram =>
      exact h.silent_request hsilent (Or.inr trivial)
  | writeCpu addr data => exact Console.silent_writeCpu hsilent haction data
  | readCpu | readPpu | writePpu | tick =>
    rw [Action.chip_access]
    · exact hsilent.onChip _
    · exact trivial
    · exact fun _ => nofun

theorem silent_restore (h : OnBoard board prg chr solder session)
    (hsilent : session.bus.chip.Silent) {saved : UInt8} (hsaved : board.IsSelect saved) :
    (session.restore saved).bus.chip.Silent := by
  rcases h.chip_restore hsaved with heq | heq
  · rwa [heq]
  · rw [heq]
    exact hsilent.withSelect saved

/-- A run that never asks for an IRQ keeps the line down. -/
theorem silent_run (h : OnBoard board prg chr solder session)
    (hsilent : session.bus.chip.Silent) {script : Script Action}
    (hscript : script.Forall Action.SparesIrq) :
    (script.run Action.perform session).2.bus.chip.Silent := by
  have hact : ∀ action : Action, action.SparesIrq → ∀ (_ : History) now,
      OnBoard board prg chr solder now ∧ now.bus.chip.Silent →
        OnBoard board prg chr solder (action.perform now).2 ∧
          (action.perform now).2.bus.chip.Silent :=
    fun action haction _ now hnow =>
      ⟨hnow.1.perform action, hnow.1.silent_perform hnow.2 haction⟩
  exact (Script.run_preserves
    (fun _ now => OnBoard board prg chr solder now ∧ now.bus.chip.Silent) hact
    (fun _ _ _ _ hbefore hafter => ⟨hafter.1.restore hbefore.1.isSelect,
      hafter.1.silent_restore hafter.2 hbefore.1.isSelect⟩)
    hscript [] session ⟨h, hsilent⟩).2

end OnBoard

end NesCartridge
