/-
  NesCartridge.Proofs.Diagnostics.NoFalseAlarm

  The diagnostics never report a fault of a cartridge that has none. A routine leaves a healthy
  board healthy and adds to the report just what it should (`Bench.Clean.perform`); a board that
  carries a test image is healthy after any run (`InStep.healthy_bringUp`); so any routines in any
  order, from any state, record no failure (`diagnostics_raise_no_alarm`).
-/
import NesCartridge.Proofs.Diagnostics.ChrRoutines
import NesCartridge.Proofs.Diagnostics.FeatureRoutines
import NesCartridge.Proofs.Diagnostics.PrgRoutines
import NesCartridge.Proofs.Diagnostics.WramRoutine

namespace NesCartridge

/-! ## Healthy boards -/

/-- A test image by the sizes that `validate` accepts and the contents that the routines expect. -/
theorem TestImage.of_validate {board : Board} {prg : Memory} {chr : Chr}
    (hsizes : ImageSpec.validate
      { prgSize := prg.size, chrSize := chr.cells.size, chrRam := chr.writable } board = .ok ())
    (hprg : prg.HasPageTags prgPageSize)
    (htables : board.descriptor.busConflicts = true → prg.HasIdentityTables)
    (hrom : chr.writable = false → chr.cells.HasPageTags chrPageSize)
    (hram : chr.writable = true → board.descriptor.hasTileLatches = false) :
    TestImage board prg chr :=
  have hfits := ImageSpec.validate_eq_ok.mp hsizes
  ⟨hfits.1, hfits.2, hprg, htables, hrom, hram⟩

namespace InStep

variable {board : Board} {prg : Memory} {chr : Chr} {solder : Mirroring}
  {session : Session Console}

/-- A run that brings the board up leaves it healthy. -/
theorem healthy_bringUp (h : InStep board prg solder session) (hquiet : prg.Quiet board)
    (hheader : session.bus.cart.header = (Cartridge.ofParts board prg chr solder).header)
    (hpatterns : chr.SameKind session.bus.patterns) (script : Script Action)
    (hspares : script.Forall Action.SparesRegisters) :
    Healthy board prg chr solder
      ((Script.act (.request .bringUp) script).run Action.perform session).2 := by
  have hwhole : (Script.act (.request .bringUp) script).Forall Action.SparesRegisters :=
    ⟨trivial, hspares⟩
  obtain ⟨-, shadow, hshadow, -⟩ := Tracks.run h hquiet hspares
  exact h.healthy_run hquiet hheader hpatterns hwhole
    (Option.isSome_iff_exists.mpr ⟨shadow, hshadow⟩)

end InStep

/-! ## Routines -/

/-- A report after a routine on a healthy board, as far as failures and PRG results go. -/
def Routine.healthyReport (board : Board) (prg : Memory) (report : Report) : Routine → Report
  | .prgBanks => report.counting board.prgSelections
  | .prgSize => report.sized board prg
  | .chrBanks | .chrLatches | .wram | .mirroring | .irq => report

namespace Bench

variable {board : Board} {prg : Memory} {chr : Chr} {solder : Mirroring} {report : Report}
  {bench : Bench}

namespace Clean

/-- No routine that the board can take records a failure. -/
theorem perform (h : Clean board prg chr solder report bench) (himage : TestImage board prg chr)
    (routine : Routine) (hwram : routine = .wram → board.descriptor.hasWram = true) :
    Clean board prg chr solder (routine.healthyReport board prg report)
      (routine.perform bench) := by
  cases routine with
  | prgBanks => exact (h.prgBanks_routine himage.prgImage).1
  | prgSize => exact (h.prgSize_routine himage.prgImage).1
  | chrBanks => exact h.chrBanks_routine himage
  | chrLatches => exact h.chrLatches_routine himage
  | wram => exact h.wram_routine himage.quiet (hwram rfl)
  | mirroring => exact h.mirroring_routine himage.quiet
  | irq => exact h.irq_routine himage.quiet

theorem performAll (h : Clean board prg chr solder report bench)
    (himage : TestImage board prg chr) {routines : List Routine}
    (hwram : .wram ∈ routines → board.descriptor.hasWram = true) :
    Clean board prg chr solder (routines.foldl (Routine.healthyReport board prg) report)
      (bench.performAll routines) := by
  induction routines generalizing report bench with
  | nil => exact h
  | cons routine rest ih =>
    have hfirst := h.perform himage routine fun heq => hwram (heq ▸ List.mem_cons_self ..)
    exact ih hfirst fun hmem => hwram (List.mem_cons_of_mem _ hmem)

/-- Bringing the board up again says nothing in the report. -/
theorem bringUp (h : Clean board prg chr solder report bench) (hquiet : prg.Quiet board) :
    Clean board prg chr solder report (bench.request .bringUp).2 := by
  obtain ⟨current, hshadow⟩ := h.healthy.ready
  obtain ⟨next, hrequest, hnext, -⟩ := h.request hquiet hshadow .bringUp
  rw [hrequest]
  exact hnext

end Clean

end Bench

/-! ## What the routines add up to -/

namespace Routine

variable {board : Board} {prg : Memory} {report : Report} {routines : List Routine}

theorem failures_healthyReport :
    (routines.foldl (healthyReport board prg) report).failures = report.failures := by
  induction routines generalizing report with
  | nil => rfl
  | cons routine rest ih =>
    rw [List.foldl_cons, ih]
    cases routine <;> rfl

/-- Each `prgBanks` counts every bank once, and no other routine counts any. -/
theorem prgBanks_healthyReport :
    (routines.foldl (healthyReport board prg) report).prgBanks =
      report.prgBanks + routines.count .prgBanks * board.prgSelections := by
  induction routines generalizing report with
  | nil => rw [List.count_nil, Nat.zero_mul]; rfl
  | cons routine rest ih =>
    rw [List.foldl_cons, ih]
    cases routine with
    | prgBanks =>
      show report.prgBanks + board.prgSelections + _ = _
      rw [List.count_cons_self, Nat.succ_mul]
      omega
    | prgSize | chrBanks | chrLatches | wram | mirroring | irq =>
      rw [List.count_cons_of_ne (by decide)]
      rfl

/-- Once a size is found it stays in the report. -/
theorem prgSize_healthyReport {size : Nat} (hsize : board.shownPrgSize? prg = some size)
    (h : report.prgSize = some size ∨ .prgSize ∈ routines) :
    (routines.foldl (healthyReport board prg) report).prgSize = some size := by
  induction routines generalizing report with
  | nil => exact h.resolve_right List.not_mem_nil
  | cons routine rest ih =>
    apply ih
    -- The size is found now, or it was found or will be found as before.
    cases routine with
    | prgSize =>
      left
      show (board.shownPrgSize? prg).or report.prgSize = some size
      rw [hsize]
      rfl
    | prgBanks | chrBanks | chrLatches | wram | mirroring | irq =>
      exact h.imp_right fun hmem => List.mem_of_ne_of_mem (by decide) hmem

end Routine

/-- A run starts its report on a healthy board, which was brought up before or not. -/
theorem InStep.clean_begun {board : Board} {prg : Memory} {chr : Chr} {solder : Mirroring}
    {session : Session Console} (h : InStep board prg solder session) (hquiet : prg.Quiet board)
    (hheader : session.bus.cart.header = (Cartridge.ofParts board prg chr solder).header)
    (hpatterns : chr.SameKind session.bus.patterns) :
    Bench.Clean board prg chr solder (Bench.start session).report
      ((Bench.start session).request .bringUp).2 :=
  ⟨h.healthy_bringUp hquiet hheader hpatterns .done trivial, rfl, rfl, rfl⟩

/-- A whole run of the diagnostics passes, on a board that was brought up before or not. -/
theorem InStep.passed_run {board : Board} {prg : Memory} {chr : Chr} {solder : Mirroring}
    {session : Session Console} (h : InStep board prg solder session)
    (himage : TestImage board prg chr)
    (hheader : session.bus.cart.header = (Cartridge.ofParts board prg chr solder).header)
    (hpatterns : chr.SameKind session.bus.patterns) :
    (Bench.run session).report.passed = true := by
  let begun := ((Bench.start session).request .bringUp).2
  have hbegun : Bench.Clean board prg chr solder (Bench.start session).report begun :=
    h.clean_begun himage.quiet hheader hpatterns
  have hwram : .wram ∈ Routine.plan begun.desc → board.descriptor.hasWram = true := by
    rw [hbegun.desc_eq]
    exact fun hmem => (List.mem_filter.mp hmem).2
  -- The plan asks for the work RAM only where there is one, and the run ends with a bring-up.
  have hended := (hbegun.performAll himage hwram).bringUp himage.quiet
  have hfailures : (Bench.run session).report.failures = {} :=
    hended.failures.trans Routine.failures_healthyReport
  rw [Report.passed, hfailures]
  rfl

/-- On a cartridge that carries a test image, whatever was done to it since the board was brought
up, the routines that the board can take record no failure, in any number and order. They find the
PRG size and count each PRG bank once for each time they are asked; and a whole run passes, brought
up before or not. -/
theorem diagnostics_raise_no_alarm (board : Board) (prg : Memory) (chr : Chr) (solder : Mirroring)
    (hsizes : ImageSpec.validate
      { prgSize := prg.size, chrSize := chr.cells.size, chrRam := chr.writable } board = .ok ())
    (hprg : prg.HasPageTags prgPageSize)
    (htables : board.descriptor.busConflicts = true → prg.HasIdentityTables)
    (hrom : chr.writable = false → chr.cells.HasPageTags chrPageSize)
    (hram : chr.writable = true → board.descriptor.hasTileLatches = false)
    (script : Script Action) (hspares : script.Forall Action.SparesRegisters)
    (routines : List Routine) (hwram : .wram ∈ routines → board.descriptor.hasWram = true)
    (report : Report) :
    let powerOn := Session.start board (Console.powerOn (Cartridge.ofParts board prg chr solder))
    let ran := (Script.act (.request .bringUp) script).run Action.perform powerOn
    let bench := Bench.performAll routines { session := ran.2, report }
    bench.report.failures = report.failures ∧
      (∀ window rest, board.descriptor.prgWindows = window :: rest → .prgSize ∈ routines →
        bench.report.prgSize = some (Nat.max prg.size window.size)) ∧
      bench.report.prgBanks = report.prgBanks + routines.count .prgBanks *
        (board.descriptor.prgWindows.map fun window => window.maxBank + 1).sum ∧
      (Bench.run (script.run Action.perform powerOn).2).report.passed = true := by
  intro powerOn ran bench
  have himage := TestImage.of_validate hsizes hprg htables hrom hram
  have hquiet := himage.quiet
  have hstart : InStep board prg solder powerOn := InStep.start rfl
  have hhealthy : Healthy board prg chr solder ran.2 :=
    hstart.healthy_bringUp hquiet rfl (Chr.sameKind_refl _) script hspares
  have hbegin : Bench.Clean board prg chr solder report { session := ran.2, report } :=
    ⟨hhealthy, rfl, rfl, rfl⟩
  have hdone := hbegin.performAll himage hwram
  refine ⟨hdone.failures.trans Routine.failures_healthyReport, fun window rest hwindows hmem => ?_,
    hdone.prgBanks.trans Routine.prgBanks_healthyReport, ?_⟩
  · have hsize : board.shownPrgSize? prg = some (Nat.max prg.size window.size) := by
      rw [Board.shownPrgSize?, hwindows]
      rfl
    exact hdone.prgSize.trans (Routine.prgSize_healthyReport hsize (Or.inr hmem))
  · have hcart := script.sameCart_run powerOn
    exact (hstart.run hquiet hspares).passed_run himage hcart.header hcart.patterns

/-- Left with its work RAM closed and its counter armed, a small MMC3 cartridge still shows no
fault, and each of its 64 banks in both windows is counted twice. -/
theorem diagnostics_raise_no_alarm_mmc3 :
    let prg := taggedPrg 0x20000
    let chr := Chr.rom (taggedChr 0x2000)
    let script : Script Action :=
      .act (.request (.setWram .disabled)) (.handler (.act (.request (.selectPrg 1 5)) .done)
        (.act (.request (.configureIrq 3 true)) (.act (.readPpu 0x1000) .done)))
    let routines : List Routine := [.irq, .prgBanks, .prgSize, .wram, .mirroring, .prgBanks]
    let powerOn := Session.start .mmc3 (Console.powerOn (Cartridge.ofParts .mmc3 prg chr .vertical))
    let ran := (Script.act (.request .bringUp) script).run Action.perform powerOn
    let bench := Bench.performAll routines { session := ran.2, report := { board := .mmc3 } }
    ImageSpec.validate { prgSize := prg.size, chrSize := chr.cells.size, chrRam := chr.writable }
        .mmc3 = .ok () ∧
      prg.HasPageTags prgPageSize ∧ chr.cells.HasPageTags chrPageSize ∧
      script.Forall Action.SparesRegisters ∧
      bench.report.failures = {} ∧ bench.report.prgSize = some 0x20000 ∧
      bench.report.prgBanks = 256 ∧
      (Bench.run (script.run Action.perform powerOn).2).report.passed = true := by
  have hprg := size_taggedPrg 0x20000
  have htags := hasPageTags_taggedPrg 0x20000
  have hchr := size_taggedChr 0x2000
  have hrom := hasPageTags_taggedChr 0x2000
  generalize taggedPrg 0x20000 = image at hprg htags ⊢
  generalize taggedChr 0x2000 = tiles at hchr hrom ⊢
  intro prg chr script routines
  have hsizes : ImageSpec.validate
      { prgSize := prg.size, chrSize := chr.cells.size, chrRam := chr.writable } .mmc3 =
        .ok () := by
    show ImageSpec.validate
      { prgSize := image.size, chrSize := tiles.size, chrRam := false } _ = _
    rw [hprg, hchr]
    decide
  have hspares : script.Forall Action.SparesRegisters :=
    ⟨trivial, ⟨trivial, trivial⟩, trivial, trivial, trivial⟩
  obtain ⟨hfailures, hsize, hbanks, hpassed⟩ :=
    diagnostics_raise_no_alarm .mmc3 prg chr .vertical hsizes htags (fun h => nomatch h)
      (fun _ => hrom) (fun h => nomatch h) script hspares routines (fun _ => rfl) { board := .mmc3 }
  refine ⟨hsizes, htags, hrom, hspares, hfailures, ?_, hbanks.trans (by decide), hpassed⟩
  rw [hsize _ _ rfl (by decide)]
  exact congrArg (fun size => some (Nat.max size 0x2000)) hprg

end NesCartridge
