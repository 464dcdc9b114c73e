/-
  NesCartridge.Proofs.Diagnostics.BenchSteps

  What single steps of a diagnostic routine do on a healthy board: one that is in step with its
  controller, has been brought up, and carries a test image (`Healthy`). Requests that the board has
  are accepted, accesses disturb nothing, and a check that holds records no failure
  (`Bench.Clean`).
-/
import NesCartridge.Proofs.Diagnostics.Progress
import NesCartridge.Proofs.Diagnostics.TestImage
import NesCartridge.Proofs.Features
import NesCartridge.Proofs.PatternReads

namespace NesCartridge

/-- A session as it is after bringing up a cartridge put together from these parts. -/
structure Healthy (board : Board) (prg : Memory) (chr : Chr) (solder : Mirroring)
    (session : Session Console) : Prop where
  inStep : InStep board prg solder session
  ready : ∃ shadow, session.controller.shadow = some shadow
  header : session.bus.cart.header = (Cartridge.ofParts board prg chr solder).header
  patterns : chr.SameKind session.bus.patterns

namespace Healthy

variable {board : Board} {prg : Memory} {chr : Chr} {solder : Mirroring}
  {session : Session Console} {current after : Shadow} {req : Request}
  {writes : List RegisterWrite}

/-- What the board has is accepted, and nothing but the chip changes. -/
theorem request (h : Healthy board prg chr solder session) (hquiet : prg.Quiet board)
    (hshadow : session.controller.shadow = some current)
    (hans : board.Answers current req after writes) :
    ∃ next, session.request req = (.ok (), next) ∧ Healthy board prg chr solder next ∧
      next.controller.shadow = some after ∧
      next.bus = session.bus.withChip (session.bus.chip.writeAll writes) := by
  have hrequest := h.inStep.onBoard.request_of_answers hquiet hshadow hans
  have hnext := h.inStep.request hquiet req
  rw [hrequest] at hnext
  exact ⟨_, hrequest, ⟨hnext, ⟨after, rfl⟩, h.header, h.patterns⟩, rfl, rfl⟩

/-- What does not disturb the chip leaves the board healthy. -/
theorem of_keeps (h : Healthy board prg chr solder session) {console : Console}
    (hkeeps : session.bus.Keeps console)
    (hkind : session.bus.patterns.SameKind console.patterns) :
    Healthy board prg chr solder { session with bus := console } :=
  ⟨h.inStep.of_keeps hkeeps, h.ready, hkeeps.header.trans h.header, h.patterns.trans hkind⟩

end Healthy

/-- Wherever a run has left the board, it is healthy once it has been brought up. -/
theorem InStep.healthy_run {board : Board} {prg : Memory} {chr : Chr} {solder : Mirroring}
    {session : Session Console} (h : InStep board prg solder session) (hquiet : prg.Quiet board)
    (hheader : session.bus.cart.header = (Cartridge.ofParts board prg chr solder).header)
    (hpatterns : chr.SameKind session.bus.patterns) {script : Script Action}
    (hspares : script.Forall Action.SparesRegisters)
    (hready : (script.run Action.perform session).2.controller.isReady = true) :
    Healthy board prg chr solder (script.run Action.perform session).2 :=
  ⟨h.run hquiet hspares, Option.isSome_iff_exists.mp hready,
    (script.sameCart_run session).header.trans hheader,
    hpatterns.trans (script.sameCart_run session).patterns⟩

namespace Bench

/-- The board is healthy, and the report has the failures and the PRG results of the one given. -/
structure Clean (board : Board) (prg : Memory) (chr : Chr) (solder : Mirroring) (report : Report)
    (bench : Bench) : Prop where
  healthy : Healthy board prg chr solder bench.session
  failures : bench.report.failures = report.failures
  prgBanks : bench.report.prgBanks = report.prgBanks
  prgSize : bench.report.prgSize = report.prgSize

namespace Clean

variable {board : Board} {prg : Memory} {chr : Chr} {solder : Mirroring} {report : Report}
  {bench : Bench} {current after : Shadow} {req : Request}
  {writes : List RegisterWrite}

theorem desc_eq (h : Clean board prg chr solder report bench) :
    bench.desc = board.descriptor :=
  congrArg Board.descriptor h.healthy.inStep.board_eq

theorem prgRomSize_eq (h : Clean board prg chr solder report bench) :
    bench.header.prgRomSize = prg.size :=
  congrArg Header.prgRomSize h.healthy.header

/-- The header states the size of the pattern memory, of whichever kind it is. -/
theorem chrTotal_eq (h : Clean board prg chr solder report bench) :
    bench.chrTotal = chr.cells.size := by
  have hheader : bench.header = (Cartridge.ofParts board prg chr solder).header := h.healthy.header
  rw [chrTotal, hheader, Cartridge.ofParts]
  -- The header counts ROM and RAM apart, and one of the two is zero.
  cases hkind : chr.writable with
  | true => exact Nat.zero_max _
  | false => exact Nat.max_zero _

theorem chrRomSize_eq (h : Clean board prg chr solder report bench) :
    bench.header.chrRomSize = if chr.writable then 0 else chr.cells.size :=
  congrArg Header.chrRomSize h.healthy.header

/-! ## Requests -/

theorem request (h : Clean board prg chr solder report bench) (hquiet : prg.Quiet board)
    (hshadow : bench.session.controller.shadow = some current)
    (hans : board.Answers current req after writes) :
    ∃ next, bench.request req = (.ok (), next) ∧ Clean board prg chr solder report next ∧
      next.session.controller.shadow = some after ∧
      next.console = bench.console.withChip (bench.console.chip.writeAll writes) ∧
      next.report = bench.report := by
  obtain ⟨session, hrequest, hhealthy, hafter, hbus⟩ := h.healthy.request hquiet hshadow hans
  refine ⟨{ bench with session }, ?_, ⟨hhealthy, h.failures, h.prgBanks, h.prgSize⟩, hafter, hbus,
    rfl⟩
  rw [Bench.request, hrequest]

/-- What the board refuses leaves the bench as it was. -/
theorem request_of_refused (h : Clean board prg chr solder report bench)
    (hshadow : bench.session.controller.shadow = some current) {error : MapperError}
    (hrefused : board.respond current req = .error error) :
    bench.request req = (.error error, bench) := by
  have hboard : bench.session.controller.board = board := h.healthy.inStep.board_eq
  have hperform := Controller.perform_of_refused hshadow (hboard.symm ▸ hrefused)
  rw [Bench.request, Session.request, hperform]

/-- A request that a check needs goes through. -/
theorem ask (h : Clean board prg chr solder report bench) (hquiet : prg.Quiet board)
    (hshadow : bench.session.controller.shadow = some current)
    (hans : board.Answers current req after writes) (check : Check) (what : String) :
    Returns (bench.ask check what req) fun next =>
      Clean board prg chr solder report next ∧
        next.session.controller.shadow = some after ∧
        next.console = bench.console.withChip (bench.console.chip.writeAll writes) ∧
        next.report = bench.report := by
  obtain ⟨next, hrequest, hnext⟩ := h.request hquiet hshadow hans
  refine ⟨next, ?_, hnext⟩
  rw [Bench.ask, hrequest]

/-! ## Accesses -/

theorem onConsole (h : Clean board prg chr solder report bench) {f : Console → Console}
    (hkeeps : bench.console.Keeps (f bench.console))
    (hkind : bench.console.patterns.SameKind (f bench.console).patterns) :
    Clean board prg chr solder report (bench.onConsole f) :=
  ⟨h.healthy.of_keeps hkeeps hkind, h.failures, h.prgBanks, h.prgSize⟩

theorem readPpu (h : Clean board prg chr solder report bench) (addr : UInt16) :
    Clean board prg chr solder report (bench.readPpu addr).2 := by
  have hkind : bench.console.patterns.SameKind (bench.console.readPpu addr).2.patterns := by
    have hchr : (bench.console.readPpu addr).2.patterns = bench.console.patterns :=
      bench.console.chr_readPpu addr
    rw [hchr]
    exact Chr.sameKind_refl _
  exact ⟨h.healthy.of_keeps (bench.console.keeps_readPpu addr) hkind, h.failures, h.prgBanks,
    h.prgSize⟩

theorem writePpu (h : Clean board prg chr solder report bench) (addr : UInt16)
    (data : UInt8) : Clean board prg chr solder report (bench.writePpu addr data) :=
  h.onConsole (bench.console.keeps_writePpu addr data) (bench.console.sameKind_writePpu addr data)

theorem write (h : Clean board prg chr solder report bench) {addr : UInt16} {data : UInt8}
    (hspares : (Action.writeCpu addr data).SparesRegisters) :
    Clean board prg chr solder report (bench.write addr data) := by
  have hchr : (bench.console.writeCpu addr data).patterns = bench.console.patterns :=
    bench.console.chr_writeCpu addr data
  apply h.onConsole (bench.console.keeps_writeCpu (hspares.sparesChip _))
  rw [hchr]
  exact Chr.sameKind_refl _

/-! ## The report -/

/-- A check that holds is recorded as made and nothing else. -/
theorem check (h : Clean board prg chr solder report bench) {ok : Bool} (hok : ok = true)
    (what : Check) (note : Note) :
    Clean board prg chr solder report (bench.check what ok note) := by
  subst hok
  exact ⟨h.healthy, h.failures, h.prgBanks, h.prgSize⟩

end Clean

end Bench

end NesCartridge
