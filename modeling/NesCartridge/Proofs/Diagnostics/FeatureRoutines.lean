/-
  NesCartridge.Proofs.Diagnostics.FeatureRoutines

  The routines that try mirroring and the IRQ counter, on a healthy board. A marker shows in just
  the nametables that the selected mode joins to the first, and the one-screen pages are apart
  (`Bench.Clean.mirroring_routine`); the IRQ comes with its period and not before, goes away when it
  is acknowledged, and stays away while it is masked (`Bench.Clean.irq_routine`).
-/
import NesCartridge.Proofs.Diagnostics.BenchSteps
import NesCartridge.Proofs.IrqCounters

namespace NesCartridge

namespace Bench

open Console (InNametables)

/-! ## Mirroring -/

theorem inNametables_of_mem {base : UInt16} (h : base ∈ nametableBases) : InNametables base := by
  simp only [nametableBases, List.mem_cons, List.not_mem_nil, or_false] at h
  rcases h with rfl | rfl | rfl | rfl <;> decide

/-- Where a marker is seen does not depend on looking. -/
theorem seenAt_eq (marker : UInt8) {bases : List UInt16}
    (hbases : ∀ base ∈ bases, InNametables base) (bench : Bench) :
    seenAt marker bases bench =
      (bases.map fun base => (bench.console.readPpu base).1 == marker, bench) := by
  induction bases with
  | nil => rfl
  | cons base rest ih =>
    have hread := bench.console.readPpu_of_nametables (hbases base (List.mem_cons_self ..))
    have hstill : (bench.readPpu base).2 = bench := by
      show { bench with
        session := { bench.session with bus := (bench.console.readPpu base).2 } } = _
      rw [hread]
      rfl
    have hrest := ih fun base hbase => hbases base (List.mem_cons_of_mem _ hbase)
    show (((bench.readPpu base).1 == marker) :: (seenAt marker rest (bench.readPpu base).2).1,
      (seenAt marker rest (bench.readPpu base).2).2) = _
    rw [hstill, hrest]
    rfl

/-- A marker shows in just the nametables that the mode joins to the first. -/
theorem seen_eq_aliases {bench : Bench} {mode : Mirroring} {marker : UInt8} (hmarker : marker ≠ 0)
    (hread : ∀ base ∈ nametableBases, (bench.console.readPpu base).1 =
      if mode.cell base = mode.cell 0x2000 then marker else 0) :
    (nametableBases.map fun base => (bench.console.readPpu base).1 == marker) = aliases mode := by
  have hjoined : ∀ mode : Mirroring,
      (nametableBases.map fun base => decide (mode.cell base = mode.cell 0x2000)) =
        aliases mode := by
    intro mode
    cases mode <;> decide
  rw [← hjoined]
  apply List.map_congr_left
  intro base hbase
  rw [hread base hbase, Bool.eq_iff_iff, beq_iff_eq, decide_eq_true_iff]
  split
  next hsame => exact iff_of_true rfl hsame
  next hother => exact iff_of_false hmarker.symm hother

namespace Clean

variable {board : Board} {prg : Memory} {chr : Chr} {solder : Mirroring} {report : Report}
  {bench : Bench} {mode : Mirroring}

/-- A mode that the board has is selected, and the nametables keep their bytes. -/
theorem request_setMirroring (h : Clean board prg chr solder report bench)
    (hquiet : prg.Quiet board) (hmode : board.descriptor.supportsMirroring mode = true) :
    ∃ next, bench.request (.setMirroring mode) = (.ok (), next) ∧
      Clean board prg chr solder report next ∧ next.console.cart.mirroring = mode ∧
      next.console.nametables = bench.console.nametables := by
  obtain ⟨current, hshadow⟩ := h.healthy.ready
  obtain ⟨next, hrequest, hnext, hafter, hconsole, -⟩ :=
    h.request hquiet hshadow (.setMirroring hmode)
  have hmirroring := hnext.healthy.inStep.mirroring_eq hafter (Shadow.hasChoice_of_supports hmode)
  refine ⟨next, hrequest, hnext, hmirroring, ?_⟩
  rw [hconsole]
  rfl

theorem ask_setMirroring (h : Clean board prg chr solder report bench) (hquiet : prg.Quiet board)
    (hmode : board.descriptor.supportsMirroring mode = true) (check : Check) (what : String) :
    Returns (bench.ask check what (.setMirroring mode)) fun next =>
      Clean board prg chr solder report next ∧ next.console.cart.mirroring = mode ∧
        next.console.nametables = bench.console.nametables := by
  obtain ⟨next, hrequest, hnext⟩ := h.request_setMirroring hquiet hmode
  refine ⟨next, ?_, hnext⟩
  rw [Bench.ask, hrequest]

/-- A byte in a nametable leaves the mirroring alone and shows wherever it is joined. -/
theorem store (h : Clean board prg chr solder report bench)
    (hmirroring : bench.console.cart.mirroring = mode) {base : UInt16} (hbase : InNametables base)
    (data : UInt8) :
    let stored := bench.writePpu base data
    Clean board prg chr solder report stored ∧ stored.console.cart.mirroring = mode ∧
      ∀ addr, InNametables addr → (stored.console.readPpu addr).1 =
        if mode.cell addr = mode.cell base then data else (bench.console.readPpu addr).1 := by
  intro stored
  have hwrite := bench.console.writePpu_of_nametables hbase data
  refine ⟨h.writePpu base data, ?_, fun addr haddr => ?_⟩
  · show (bench.console.writePpu base data).cart.mirroring = mode
    rw [hwrite]
    exact hmirroring
  · subst hmirroring
    exact bench.console.readPpu_writePpu_of_nametables haddr hbase data

/-- Wiping some nametables leaves the mirroring alone and zeros at their bases. -/
theorem wipe (bases : List UInt16) (hbases : ∀ base ∈ bases, InNametables base)
    (h : Clean board prg chr solder report bench)
    (hmirroring : bench.console.cart.mirroring = mode) :
    let wiped := bases.foldl (fun now base => now.writePpu base 0) bench
    Clean board prg chr solder report wiped ∧ wiped.console.cart.mirroring = mode ∧
      ∀ addr, InNametables addr → (bench.console.readPpu addr).1 = 0 ∨ addr ∈ bases →
        (wiped.console.readPpu addr).1 = 0 := by
  induction bases generalizing bench with
  | nil => exact ⟨h, hmirroring, fun addr _ hzero => hzero.resolve_right List.not_mem_nil⟩
  | cons base rest ih =>
    obtain ⟨hstored, hmirroring', hread⟩ :=
      h.store hmirroring (hbases base (List.mem_cons_self ..)) 0
    obtain ⟨hrest, hmirroring'', hzero⟩ :=
      ih (fun other hother => hbases other (List.mem_cons_of_mem _ hother)) hstored hmirroring'
    refine ⟨hrest, hmirroring'', fun addr haddr hwiped => hzero addr haddr ?_⟩
    rw [hread addr haddr]
    split
    next => exact Or.inl rfl
    next hother =>
      -- An address that shares no cell with the base that is wiped reads as it did.
      rcases hwiped with hwiped | hwiped
      · exact Or.inl hwiped
      · rcases List.mem_cons.mp hwiped with rfl | hwiped
        · exact absurd rfl hother
        · exact Or.inr hwiped

/-- A marker shows where the mode joins a nametable to the first, and nowhere else. -/
theorem mirroringMode (h : Clean board prg chr solder report bench) (hquiet : prg.Quiet board)
    (hmode : board.descriptor.supportsMirroring mode = true) (number : Nat) :
    Clean board prg chr solder report (bench.mirroringMode (mode, number)) := by
  obtain ⟨selected, hrequest, hselected, hmirroring, -⟩ := h.request_setMirroring hquiet hmode
  have hbases : ∀ base ∈ nametableBases, InNametables base := fun _ => inNametables_of_mem
  have hfirst : InNametables 0x2000 := by decide
  obtain ⟨hwiped, hmirroring', hzero⟩ :=
    hselected.wipe nametableBases.reverse
      (fun base hbase => hbases base (List.mem_reverse.mp hbase)) hmirroring
  let marker : UInt8 := 0x80 ||| UInt8.ofNat number
  -- The high bit keeps every marker apart from a wiped byte.
  have hmarker : marker ≠ 0 := by
    intro hmarker
    have hle : 0x80 ≤ marker.toNat := UInt8.toNat_or 0x80 _ ▸ Nat.left_le_or
    rw [hmarker] at hle
    exact absurd hle (by decide)
  obtain ⟨hmarked, -, hread⟩ := hwiped.store hmirroring' hfirst marker
  unfold Bench.mirroringMode
  dsimp only
  rw [hrequest]
  dsimp only
  rw [seenAt_eq _ hbases]
  refine hmarked.check ?_ .mirroring _
  refine beq_iff_eq.mpr (seen_eq_aliases hmarker fun base hbase => ?_)
  have hnow := hread base (hbases base hbase)
  rw [hzero base (hbases base hbase) (Or.inr (List.mem_reverse.mpr hbase))] at hnow
  exact hnow

/-- A byte goes to the cell that the mode gives its address. -/
theorem nametables_writePpu (hmirroring : bench.console.cart.mirroring = mode) {base : UInt16}
    (hbase : InNametables base) (data : UInt8) :
    (bench.writePpu base data).console.nametables =
      bench.console.nametables.set (mode.cell base) data (mode.cell_lt base) := by
  subst hmirroring
  show (bench.console.writePpu base data).nametables = _
  rw [bench.console.writePpu_of_nametables hbase]
  rfl

theorem readPpu_of_mode (hmirroring : bench.console.cart.mirroring = mode) {base : UInt16}
    (hbase : InNametables base) :
    (bench.readPpu base).1 = bench.console.nametables.get ⟨mode.cell base, mode.cell_lt base⟩ := by
  subst hmirroring
  show (bench.console.readPpu base).1 = _
  rw [bench.console.readPpu_of_nametables hbase]
  rfl

/-- The two one-screen modes have a page each. -/
theorem oneScreenPages (h : Clean board prg chr solder report bench) (hquiet : prg.Quiet board)
    (hlower : board.descriptor.supportsMirroring .oneScreenLower = true)
    (hupper : board.descriptor.supportsMirroring .oneScreenUpper = true) :
    Returns bench.oneScreenPages (Clean board prg chr solder report) := by
  have hfirst : InNametables 0x2000 := by decide
  unfold Bench.oneScreenPages
  dsimp only
  apply (h.ask_setMirroring hquiet hlower .mirroring "mirroring").bind
  rintro lower ⟨hlowered, hmode, -⟩
  have hstored := hlowered.writePpu 0x2000 0xAA
  have hcells := nametables_writePpu hmode hfirst 0xAA
  apply (hstored.ask_setMirroring hquiet hupper .mirroring "mirroring").bind
  rintro upper ⟨huppered, hmode', hkept⟩
  have hstored' := huppered.writePpu 0x2000 0x55
  have hcells' := nametables_writePpu hmode' hfirst 0x55
  apply (hstored'.ask_setMirroring hquiet hlower .mirroring "mirroring").bind
  rintro last ⟨hlast, hmode'', hkept'⟩
  -- Both bytes went to `$2000`, but to cells of different pages.
  have hgot : (last.readPpu 0x2000).1 = 0xAA := by
    rw [readPpu_of_mode hmode'' hfirst, hkept', hcells', hkept, hcells]
    exact (Vector.getElem_set_ne _ _ (by decide)).trans (Vector.getElem_set_self _)
  exact Returns.pure ((hlast.readPpu 0x2000).check (beq_iff_eq.mpr hgot) .mirroring _)

/-- Mirroring passes: every mode of the board joins what it should. -/
theorem mirroring_routine (h : Clean board prg chr solder report bench) (hquiet : prg.Quiet board) :
    Clean board prg chr solder report bench.mirroring := by
  have hmodes : ∀ mode ∈ board.descriptor.mirroring.modes,
      board.descriptor.supportsMirroring mode = true :=
    fun mode hmode => MirroringSet.mem_modes.mp hmode
  have hall : Clean board prg chr solder report
      (board.descriptor.mirroring.modes.zipIdx.foldl Bench.mirroringMode bench) := by
    apply List.foldlRecOn _ _ h
    rintro now hnow ⟨mode, number⟩ hentry
    exact hnow.mirroringMode hquiet (hmodes mode (List.fst_mem_of_mem_zipIdx hentry)) number
  unfold Bench.mirroring
  rw [h.desc_eq]
  dsimp only
  split
  next hboth =>
    obtain ⟨hlower, hupper⟩ := (Bool.and_eq_true ..).mp hboth
    refine Returns.finish (hall.oneScreenPages hquiet (hmodes _ ?_) (hmodes _ ?_))
    · exact List.contains_iff_mem.mp hlower
    · exact List.contains_iff_mem.mp hupper
  next => exact hall

end Clean

/-! ## The IRQ counter -/

/-- The check's period suits the counter. -/
theorem irqPeriod_fits {kind : IrqKind} (hkind : kind ≠ .none) :
    0 < irqPeriod kind ∧ irqPeriod kind ≤ kind.maxPeriod := by
  cases kind with
  | none => exact absurd rfl hkind
  | scanline | cpuCycle => decide

namespace Clean

variable {board : Board} {prg : Memory} {chr : Chr} {solder : Mirroring} {report : Report}
  {bench : Bench} {period passed : Nat} {enabled : Bool}

/-- A period that fits arms the counter afresh. -/
theorem ask_configureIrq (h : Clean board prg chr solder report bench) (hquiet : prg.Quiet board)
    (hirq : board.descriptor.supportsIrq = true) (hpos : 0 < period)
    (hmax : period ≤ board.descriptor.irq.maxPeriod) (enabled : Bool) :
    Returns (bench.ask .irq "IRQ" (.configureIrq period enabled)) fun next =>
      Clean board prg chr solder report next ∧ next.console.chip.Armed period 0 enabled := by
  obtain ⟨current, hshadow⟩ := h.healthy.ready
  apply (h.ask hquiet hshadow (.configureIrq hirq hpos hmax) .irq "IRQ").mono
  rintro next ⟨hnext, -, hconsole, -⟩
  refine ⟨hnext, ?_⟩
  rw [hconsole]
  exact h.healthy.inStep.wired.armed_armWrites hirq hpos hmax enabled

/-- An acknowledged IRQ goes away. -/
theorem ask_acknowledgeIrq (h : Clean board prg chr solder report bench) (hquiet : prg.Quiet board)
    (hirq : board.descriptor.supportsIrq = true) :
    Returns (bench.ask .irq "IRQ acknowledge" .acknowledgeIrq) fun next =>
      Clean board prg chr solder report next ∧ next.irqLine = false := by
  obtain ⟨current, hshadow⟩ := h.healthy.ready
  apply (h.ask hquiet hshadow (.acknowledgeIrq hirq) .irq "IRQ acknowledge").mono
  rintro next ⟨hnext, -, hconsole, -⟩
  refine ⟨hnext, ?_⟩
  show next.console.chip.irq = false
  rw [hconsole]
  exact h.healthy.inStep.wired.irq_acknowledgeWrites hirq

/-- A period that is too long is refused. -/
theorem request_tooLong (h : Clean board prg chr solder report bench)
    (hirq : board.descriptor.supportsIrq = true) (hmax : board.descriptor.irq.maxPeriod < period) :
    bench.request (.configureIrq period true) = (.error (.invalidIrqPeriod period), bench) := by
  obtain ⟨current, hshadow⟩ := h.healthy.ready
  exact h.request_of_refused hshadow (Board.respond_tooLong hirq hmax current)

/-- The counter goes on while time passes. -/
theorem advance (h : Clean board prg chr solder report bench)
    (harmed : bench.console.chip.Armed period passed enabled) (hpos : 0 < period)
    (hmax : period ≤ board.descriptor.irq.maxPeriod) (count : Nat) :
    let next := bench.advance board.descriptor.irq count
    Clean board prg chr solder report next ∧
      next.console.chip.Armed period (passed + count) enabled ∧
      next.irqLine = (enabled && decide (period ≤ passed + count)) := by
  have hlater := Console.armed_pass h.healthy.inStep.wired harmed hpos hmax count
  have hpatterns : (bench.console.pass board.descriptor.irq count).patterns =
      bench.console.patterns := bench.console.chr_pass board.descriptor.irq count
  have hkind : bench.console.patterns.SameKind
      (bench.console.pass board.descriptor.irq count).patterns := by
    rw [hpatterns]
    exact Chr.sameKind_refl _
  exact ⟨h.onConsole (bench.console.keeps_pass board.descriptor.irq count) hkind, hlater,
    hlater.irq_eq⟩

/-- The IRQ passes: in time, taken back, masked, and bounded. -/
theorem irqChecks (h : Clean board prg chr solder report bench) (hquiet : prg.Quiet board)
    (hirq : board.descriptor.supportsIrq = true) :
    Returns (Bench.irqChecks board.descriptor.irq bench) (Clean board prg chr solder report) := by
  have hkind : board.descriptor.irq ≠ .none := by
    intro hnone
    rw [Descriptor.supportsIrq, hnone] at hirq
    cases hirq
  obtain ⟨hpos, hmax⟩ := irqPeriod_fits hkind
  unfold Bench.irqChecks
  dsimp only
  -- Only that the period fits the counter matters, not which one the check takes.
  generalize irqPeriod board.descriptor.irq = period at hpos hmax
  apply (h.ask_configureIrq hquiet hirq hpos hmax true).bind
  rintro armed ⟨harmed, hstart⟩
  obtain ⟨hearly, hcounter, hearlyLine⟩ := harmed.advance hstart hpos hmax (period - 1)
  obtain ⟨hfired, -, hfiredLine⟩ := hearly.advance hcounter hpos hmax 1
  have hinTime : (!(armed.advance board.descriptor.irq (period - 1)).irqLine &&
      ((armed.advance board.descriptor.irq (period - 1)).advance board.descriptor.irq 1).irqLine) =
        true := by
    rw [hearlyLine, hfiredLine, decide_eq_false (by omega), decide_eq_true (by omega)]
    rfl
  apply ((hfired.check hinTime .irq _).ask_acknowledgeIrq hquiet hirq).bind
  rintro taken ⟨htaken, hline⟩
  refine ((htaken.check ?_ .irq _).ask_configureIrq hquiet hirq hpos hmax false).bind ?_
  · rw [hline]
    rfl
  rintro masked ⟨hmasked, hstart'⟩
  obtain ⟨hlater, -, hlaterLine⟩ := hmasked.advance hstart' hpos hmax (period * 2)
  have hsilent : (!(masked.advance board.descriptor.irq (period * 2)).irqLine) = true := by
    rw [hlaterLine]
    rfl
  have hstill := hlater.check hsilent .irq .irqNotMasked
  rw [hstill.request_tooLong hirq (Nat.lt_succ_self _)]
  exact Returns.pure (hstill.check (decide_eq_true rfl) .irq _)

theorem irq_routine (h : Clean board prg chr solder report bench) (hquiet : prg.Quiet board) :
    Clean board prg chr solder report bench.irq := by
  unfold Bench.irq
  rw [h.desc_eq]
  split
  next => exact h
  next hkind => exact Returns.finish (h.irqChecks hquiet (decide_eq_true hkind))

end Clean

end Bench

end NesCartridge
