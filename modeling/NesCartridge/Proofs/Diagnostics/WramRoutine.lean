/-
  NesCartridge.Proofs.Diagnostics.WramRoutine

  The routine that tries the work RAM, on a healthy board that has one: both ends take and give
  bytes while it is open, its first byte outlasts a write while it is closed or protected, and what
  the board cannot close is skipped without a failure (`Bench.Clean.wram_routine`).
-/
import NesCartridge.Proofs.Diagnostics.BenchSteps

namespace NesCartridge

/-- Every board with work RAM can open it. -/
theorem Board.missing?_readWrite {board : Board} (h : board.descriptor.hasWram = true) :
    board.descriptor.wram.missing? .readWrite = none := by
  cases board with
  | mmc1 | mmc3 | mmc4 | fme7 => rfl
  | _ => cases h

namespace Bench

/-- The work RAM mode that the controller selected last. -/
def HasWramMode (bench : Bench) (mode : WramMode) : Prop :=
  ∃ shadow, bench.session.controller.shadow = some shadow ∧ shadow.wram = some mode

namespace Clean

variable {board : Board} {prg : Memory} {chr : Chr} {solder : Mirroring} {report : Report}
  {bench : Bench} {mode : WramMode} {addr : UInt16}

/-- An access mode that the board has is taken, and the work RAM keeps its bytes. -/
theorem request_setWram (h : Clean board prg chr solder report bench) (hquiet : prg.Quiet board)
    (hmode : board.descriptor.wram.missing? mode = none) :
    ∃ next, bench.request (.setWram mode) = (.ok (), next) ∧
      Clean board prg chr solder report next ∧ next.HasWramMode mode ∧
      next.console.workRam = bench.console.workRam := by
  obtain ⟨current, hshadow⟩ := h.healthy.ready
  obtain ⟨next, hrequest, hnext, hafter, hconsole, -⟩ :=
    h.request hquiet hshadow (.setWram hmode)
  refine ⟨next, hrequest, hnext, ⟨_, hafter, rfl⟩, ?_⟩
  rw [hconsole]
  rfl

theorem ask_setWram (h : Clean board prg chr solder report bench) (hquiet : prg.Quiet board)
    (hmode : board.descriptor.wram.missing? mode = none) (check : Check) (what : String) :
    Returns (bench.ask check what (.setWram mode)) fun next =>
      Clean board prg chr solder report next ∧ next.HasWramMode mode ∧
        next.console.workRam = bench.console.workRam := by
  obtain ⟨next, hrequest, hnext⟩ := h.request_setWram hquiet hmode
  refine ⟨next, ?_, hnext⟩
  rw [Bench.ask, hrequest]

/-- An access mode that the board lacks is refused, and nothing happens. -/
theorem request_setWram_of_missing (h : Clean board prg chr solder report bench) {feature : Feature}
    (hmode : board.descriptor.wram.missing? mode = some feature) :
    bench.request (.setWram mode) = (.error (.notSupported feature), bench) := by
  obtain ⟨current, hshadow⟩ := h.healthy.ready
  exact h.request_of_refused hshadow (by simp only [Board.respond, hmode])

theorem size_workRam (h : Clean board prg chr solder report bench)
    (hwram : board.descriptor.hasWram = true) : bench.console.workRam.size = 0x2000 :=
  h.healthy.inStep.size_workRam hwram

theorem target_eq (h : Clean board prg chr solder report bench)
    (hwram : board.descriptor.hasWram = true) (hmode : bench.HasWramMode mode)
    (haddr : inWram addr = true) : bench.console.target addr = mode.target := by
  obtain ⟨shadow, hshadow, hselected⟩ := hmode
  have htarget := h.healthy.inStep.target_wram hshadow hwram haddr
  rwa [shadow.wramTarget_eq, hselected] at htarget

/-- A write while the work RAM is open is stored. -/
theorem write_open (h : Clean board prg chr solder report bench)
    (hwram : board.descriptor.hasWram = true) (hmode : bench.HasWramMode .readWrite)
    (haddr : inWram addr = true) (data : UInt8) :
    let next := bench.write addr data
    Clean board prg chr solder report next ∧ next.HasWramMode .readWrite ∧
      next.console.workRam = bench.console.workRam.wramWrite addr data := by
  intro next
  refine ⟨h.write (Or.inr haddr), hmode, ?_⟩
  have hwrite := Console.writeCpu_of_open haddr (h.target_eq hwram hmode haddr) data
  show (bench.console.writeCpu addr data).workRam = _
  rw [hwrite]
  rfl

/-- A write while it is closed is lost. -/
theorem write_closed (h : Clean board prg chr solder report bench)
    (hwram : board.descriptor.hasWram = true) (hmode : bench.HasWramMode mode)
    (hclosed : mode ≠ .readWrite) (haddr : inWram addr = true) (data : UInt8) :
    bench.write addr data = bench := by
  have htarget : bench.console.target addr ≠ .wram true := by
    rw [h.target_eq hwram hmode haddr]
    cases mode with
    | disabled | readOnly => decide
    | readWrite => exact absurd rfl hclosed
  have hwrite : bench.session.bus.writeCpu addr data = bench.session.bus :=
    Console.writeCpu_of_closed haddr htarget data
  rw [Bench.write, Bench.onConsole, hwrite]

theorem read_of_readable (h : Clean board prg chr solder report bench)
    (hwram : board.descriptor.hasWram = true) (hmode : bench.HasWramMode mode)
    (hreadable : mode ≠ .disabled) (haddr : inWram addr = true) :
    bench.read addr = bench.console.workRam.wramRead addr := by
  have htarget := h.target_eq hwram hmode haddr
  cases mode with
  | disabled => exact absurd rfl hreadable
  | readOnly | readWrite => exact Console.readCpu_of_wram haddr htarget

theorem read_of_disabled (h : Clean board prg chr solder report bench)
    (hwram : board.descriptor.hasWram = true) (hmode : bench.HasWramMode .disabled)
    (haddr : inWram addr = true) : bench.read addr = openBus addr :=
  Console.readCpu_of_openBus haddr (h.target_eq hwram hmode haddr)

end Clean

/-- The work RAM is open and its first byte is the one that the routine stored. -/
structure Primed (board : Board) (prg : Memory) (chr : Chr) (solder : Mirroring) (report : Report)
    (bench : Bench) : Prop where
  clean : Clean board prg chr solder report bench
  mode : bench.HasWramMode .readWrite
  first : bench.console.workRam.wramRead Address.wramStart = 0xA5

namespace Primed

variable {board : Board} {prg : Memory} {chr : Chr} {solder : Mirroring} {report : Report}
  {bench : Bench}

/-- A check of a closed work RAM opens it again and finds the first byte. -/
theorem reopened (hwram : board.descriptor.hasWram = true) (hquiet : prg.Quiet board)
    (h : Clean board prg chr solder report bench)
    (hfirst : bench.console.workRam.wramRead Address.wramStart = 0xA5) :
    Returns (bench.ask .wram "WRAM re-enable" (.setWram .readWrite))
      (Primed board prg chr solder report) := by
  refine (h.ask_setWram hquiet (Board.missing?_readWrite hwram) .wram "WRAM re-enable").mono ?_
  rintro next ⟨hnext, hmode, hkept⟩
  exact ⟨hnext, hmode, hkept.symm ▸ hfirst⟩

theorem read_first (h : Primed board prg chr solder report bench)
    (hwram : board.descriptor.hasWram = true) : bench.read Address.wramStart = 0xA5 :=
  (h.clean.read_of_readable hwram h.mode (by decide) rfl).trans h.first

theorem check (h : Primed board prg chr solder report bench) {ok : Bool} (hok : ok = true)
    (what : Check) (note : Note) :
    Primed board prg chr solder report (bench.check what ok note) :=
  ⟨h.clean.check hok what note, h.mode, h.first⟩

theorem wramDisable (h : Primed board prg chr solder report bench) (hquiet : prg.Quiet board)
    (hwram : board.descriptor.hasWram = true) :
    Returns bench.wramDisable (Primed board prg chr solder report) := by
  unfold Bench.wramDisable
  cases hmode : board.descriptor.wram.missing? .disabled with
  | some feature =>
    rw [h.clean.request_setWram_of_missing hmode]
    exact Returns.pure ⟨⟨h.clean.healthy, h.clean.failures, h.clean.prgBanks, h.clean.prgSize⟩,
      h.mode, h.first⟩
  | none =>
    obtain ⟨closed, hrequest, hclosed, hdisabled, hkept⟩ := h.clean.request_setWram hquiet hmode
    rw [hrequest]
    dsimp only
    rw [hclosed.write_closed hwram hdisabled (by decide) rfl,
      hclosed.read_of_disabled hwram hdisabled rfl]
    -- Closed, the address reads as open bus; opened again it must still hold the byte.
    apply (reopened hwram hquiet hclosed (hkept.symm ▸ h.first)).bind
    intro next hnext
    refine Returns.pure (hnext.check ?_ .wramDisable _)
    rw [hnext.read_first hwram]
    decide

theorem wramProtect (h : Primed board prg chr solder report bench) (hquiet : prg.Quiet board)
    (hwram : board.descriptor.hasWram = true) :
    Returns bench.wramProtect (Primed board prg chr solder report) := by
  unfold Bench.wramProtect
  cases hmode : board.descriptor.wram.missing? .readOnly with
  | some feature =>
    rw [h.clean.request_setWram_of_missing hmode]
    exact Returns.pure ⟨⟨h.clean.healthy, h.clean.failures, h.clean.prgBanks, h.clean.prgSize⟩,
      h.mode, h.first⟩
  | none =>
    obtain ⟨closed, hrequest, hclosed, hreadOnly, hkept⟩ := h.clean.request_setWram hquiet hmode
    have hgot : closed.read Address.wramStart = 0xA5 := by
      rw [hclosed.read_of_readable hwram hreadOnly (by decide) rfl, hkept, h.first]
    rw [hrequest]
    dsimp only
    rw [hclosed.write_closed hwram hreadOnly (by decide) rfl, hgot]
    apply (reopened hwram hquiet hclosed (hkept.symm ▸ h.first)).bind
    intro next hnext
    exact Returns.pure (hnext.check (by decide) .wramProtect _)

end Primed

namespace Clean

variable {board : Board} {prg : Memory} {chr : Chr} {solder : Mirroring} {report : Report}
  {bench : Bench}

/-- The work RAM passes from whatever state it was in. -/
theorem wram_routine (h : Clean board prg chr solder report bench) (hquiet : prg.Quiet board)
    (hwram : board.descriptor.hasWram = true) :
    Clean board prg chr solder report bench.wram := by
  unfold Bench.wram
  apply Returns.finish (Q := Clean board prg chr solder report)
  have hnoted : Clean board prg chr solder report
      (bench.onReport fun r => { r with wram := true }) :=
    ⟨h.healthy, h.failures, h.prgBanks, h.prgSize⟩
  refine (hnoted.ask_setWram hquiet (Board.missing?_readWrite hwram) .wram "WRAM enable").bind ?_
  rintro opened ⟨hopened, hmode, -⟩
  let stored := opened.write Address.wramStart 0xA5
  let both := stored.write Address.wramEnd 0x5A
  have hstart : inWram Address.wramStart = true := rfl
  have hend : inWram Address.wramEnd = true := rfl
  obtain ⟨hstored, hmode', hram⟩ := hopened.write_open hwram hmode hstart 0xA5
  obtain ⟨hboth, hmode'', hram'⟩ := hstored.write_open hwram hmode' hend 0x5A
  have hfirst : both.console.workRam.wramRead Address.wramStart = 0xA5 := by
    have hother : Address.wramEnd ≠ Address.wramStart := by decide
    rw [hram', Memory.wramRead_wramWrite (hstored.size_workRam hwram) hend hstart, if_neg hother,
      hram, Memory.wramRead_wramWrite (hopened.size_workRam hwram) hstart hstart, if_pos rfl]
  have hlast : both.console.workRam.wramRead Address.wramEnd = 0x5A := by
    rw [hram', Memory.wramRead_wramWrite (hstored.size_workRam hwram) hend hend, if_pos rfl]
  have hprimed : Primed board prg chr solder report both := ⟨hboth, hmode'', hfirst⟩
  have hreads :
      (both.read Address.wramStart == 0xA5 && both.read Address.wramEnd == 0x5A) = true := by
    rw [hprimed.read_first hwram, hboth.read_of_readable hwram hmode'' (by decide) hend, hlast]
    decide
  apply ((hprimed.check hreads .wram _).wramDisable hquiet hwram).bind
  intro next hnext
  exact (hnext.wramProtect hquiet hwram).mono fun _ hdone => hdone.clean

end Clean

end Bench

end NesCartridge
