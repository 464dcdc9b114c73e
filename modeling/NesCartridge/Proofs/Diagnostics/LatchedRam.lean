/-
  NesCartridge.Proofs.Diagnostics.LatchedRam

  The latch check on boards with tile latches. Only the bank check stores numbers in CHR RAM, and
  it leaves out the windows with a latch, which on these boards are all of them. So the latch
  check compares what the memory held at the start, RAM or ROM: a run passes exactly if the four
  banks that it puts there start with their numbers, and a synthesized image with CHR RAM never
  passes (`latch_check_needs_numbers`).
-/
import NesCartridge.Proofs.Diagnostics.NoFalseAlarm

namespace NesCartridge

variable {board : Board} {prg : Memory} {chr : Chr} {solder : Mirroring}

/-- On a board with tile latches the bank check has no window to go through. -/
theorem Board.plainChrWindows_eq_nil (h : board.descriptor.hasTileLatches = true) :
    board.plainChrWindows = [] := by
  rcases Mmc2.eq_of_hasTileLatches h with rfl | rfl <;> decide

/-- The notes that the latch check leaves about some pattern memory. -/
def Board.latchNotes (board : Board) (chr : Chr) : List Note :=
  board.descriptor.chrWindows.zipIdx.filterMap chr.cells.wrongLatch?

/-- There are none exactly if no window with a latch has a wrong bank in the check. -/
theorem Board.latchNotes_eq_nil_iff (h : board.descriptor.hasTileLatches = true)
    (hpos : 0 < chr.cells.size) :
    board.latchNotes chr = [] ↔ ∀ entry ∈ board.descriptor.chrWindows.zipIdx,
      ¬ chr.cells.WrongBank 0x400 entry.1 (Bench.latchBank entry.1 entry.2) := by
  have hregistry : ∀ entry ∈ board.descriptor.chrWindows.zipIdx, entry.1.latch ≠ none := by
    rcases Mmc2.eq_of_hasTileLatches h with rfl | rfl <;> decide
  rw [latchNotes, List.filterMap_eq_nil_iff]
  refine forall₂_congr fun entry hentry => ?_
  obtain ⟨latch, hlatch⟩ := Option.ne_none_iff_exists'.mp (hregistry entry hentry)
  rw [Memory.wrongLatch?, hlatch]
  exact not_iff_not.mp (Iff.trans (Memory.wrongTag?_ne_none_iff hpos _) not_not.symm)

namespace Bench

variable {report : Report} {bench : Bench}

/-- A cartridge that has just been brought up is healthy and holds what was fitted. -/
theorem clean_start (hquiet : prg.Quiet board) :
    let begun := ((Bench.start (Session.start board
      (Console.powerOn (Cartridge.ofParts board prg chr solder)))).request .bringUp).2
    Clean board prg chr solder { board } begun ∧ begun.console.patterns = chr := by
  intro begun
  have hstart : InStep board prg solder
      (Session.start board (Console.powerOn (Cartridge.ofParts board prg chr solder))) :=
    InStep.start rfl
  have hkept := Script.patterns_run (show (Script.act (.request .bringUp)
    .done).Forall Action.SparesPatterns from ⟨trivial, trivial⟩) (Session.start board
      (Console.powerOn (Cartridge.ofParts board prg chr solder)))
  exact ⟨hstart.clean_begun hquiet rfl (Chr.sameKind_refl _), hkept⟩

/-- The bank check passes over windows with a latch, and so does nothing on these boards. -/
theorem Clean.chrBanks_eq_self (h : Clean board prg chr solder report bench)
    (hlatches : board.descriptor.hasTileLatches = true) : bench.chrBanks = bench := by
  unfold Bench.chrBanks
  rw [h.desc_eq, ← Board.plainChrWindows, Board.plainChrWindows_eq_nil hlatches]
  rfl

/-- What comes after the latch check adds no failure. -/
theorem Clean.features (h : Clean board prg chr solder report bench) (hquiet : prg.Quiet board)
    {routines : List Routine}
    (hroutines : ∀ routine ∈ routines,
      routine ∈ [Routine.wram, .mirroring, .irq] ∧ routine.applies board.descriptor = true) :
    Clean board prg chr solder report (bench.performAll routines) := by
  induction routines generalizing bench with
  | nil => exact h
  | cons routine rest ih =>
    have hrest := fun next hnext => hroutines next (List.mem_cons_of_mem routine hnext)
    obtain ⟨hlisted, happlies⟩ := hroutines routine List.mem_cons_self
    simp only [List.mem_cons, List.not_mem_nil, or_false] at hlisted
    rcases hlisted with rfl | rfl | rfl
    · exact ih (h.wram_routine hquiet happlies) hrest
    · exact ih (h.mirroring_routine hquiet) hrest
    · exact ih (h.irq_routine hquiet) hrest

/-- The plan on a board with tile latches, up to the latch check and after it. -/
theorem plan_of_hasTileLatches (h : board.descriptor.hasTileLatches = true) :
    Routine.plan board.descriptor =
      [.prgBanks, .prgSize, .chrBanks, .chrLatches] ++
        [.wram, .mirroring, .irq].filter (Routine.applies board.descriptor) := by
  rcases Mmc2.eq_of_hasTileLatches h with rfl | rfl <;> decide

/-- The planned routines fail the latch check or nothing. Nothing writes to pattern memory before
it. -/
theorem Clean.failures_plan (h : Clean board prg chr solder { board } bench)
    (hpatterns : bench.console.patterns = chr)
    (hlatches : board.descriptor.hasTileLatches = true) (himage : PrgImage board prg)
    (hwhole : chr.Whole) :
    ∃ after, Clean board prg chr solder after (bench.performAll (Routine.plan board.descriptor)) ∧
      after.failures =
        if board.latchNotes chr = [] then {} else ({} : CheckSet).insert .chrLatches := by
  obtain ⟨hcounted, hsame⟩ := h.prgBanks_routine himage
  obtain ⟨hsized, hsame'⟩ := hcounted.prgSize_routine himage
  have hbefore : bench.prgBanks.prgSize.console.patterns = chr :=
    hsame'.trans (hsame.trans hpatterns)
  have hjudged := Judged.of_clean hsized .chrLatches
  rw [hbefore] at hjudged
  have hchecked := hjudged.chrLatches_routine himage.quiet hwhole
  have hended := hchecked.clean.features himage.quiet fun _ => List.mem_filter.mp
  have hplan : bench.performAll (Routine.plan board.descriptor) =
      bench.prgBanks.prgSize.chrLatches.performAll
        ([Routine.wram, .mirroring, .irq].filter (Routine.applies board.descriptor)) := by
    rw [plan_of_hasTileLatches hlatches, Bench.performAll, List.foldl_append]
    show Bench.performAll _ bench.prgBanks.prgSize.chrBanks.chrLatches = _
    rw [hsized.chrBanks_eq_self hlatches]
  have hfailures := hchecked.found.failures
  rw [hsized.failures] at hfailures
  exact ⟨_, hplan ▸ hended, hfailures⟩

/-- A whole run fails the latch check or nothing. -/
theorem failures_run (hlatches : board.descriptor.hasTileLatches = true)
    (himage : PrgImage board prg) (hwhole : chr.Whole) :
    (Bench.run (Session.start board
        (Console.powerOn (Cartridge.ofParts board prg chr solder)))).report.failures =
      if board.latchNotes chr = [] then {} else ({} : CheckSet).insert .chrLatches := by
  obtain ⟨hbegun, hpatterns⟩ := clean_start himage.quiet
  obtain ⟨after, hplanned, hfailures⟩ := hbegun.failures_plan hpatterns hlatches himage hwhole
  exact ((hplanned.bringUp himage.quiet).failures).trans hfailures

end Bench

/-! ## Memories with and without numbers -/

/-- In cleared RAM bank 1 does not start with the number of its page, which is 4. -/
theorem Board.latchNotes_ram (h : board.descriptor.hasTileLatches = true) {size : Nat}
    (hsize : 0x2000 ≤ size) : board.latchNotes (.ram size) ≠ [] := by
  have hcells : (Chr.ram size).cells.size = size := Array.size_replicate
  rw [ne_eq, latchNotes_eq_nil_iff h (by omega)]
  intro hright
  have hmem : ((⟨0x0000, 0x1000, 31, some .fd⟩, 0) : Window × Nat) ∈
      board.descriptor.chrWindows.zipIdx := by
    rcases Mmc2.eq_of_hasTileLatches h with rfl | rfl <;> decide
  refine hright _ hmem ?_
  show (Chr.ram size).cells[1 * 0x1000 % (Chr.ram size).cells.size]? ≠
    some (UInt8.ofNat (1 * 0x1000 / 0x400 % ((Chr.ram size).cells.size / 0x400)))
  rw [hcells, Nat.mod_eq_of_lt (by omega : 1 * 0x1000 < size),
    Nat.mod_eq_of_lt (by omega : 1 * 0x1000 / 0x400 < size / 0x400), Chr.ram,
    Array.getElem?_replicate, if_pos (by omega)]
  decide

theorem Board.latchNotes_of_tags (hwhole : chr.Whole) (htags : chr.cells.HasPageTags chrPageSize) :
    board.latchNotes chr = [] :=
  List.filterMap_eq_nil_iff.mpr fun _ hentry => htags.wrongLatch? hwhole.pos hwhole.dvd hentry

/-- Boards with tile latches take any PRG memory of an accepted size whose pages have numbers. -/
theorem PrgImage.of_hasTileLatches (hlatches : board.descriptor.hasTileLatches = true)
    (hfits : ImageSpec.sizeFits prg.size 0x4000 (ImageSpec.forBoard board).prgSize = true)
    (htags : prg.HasPageTags prgPageSize) : PrgImage board prg := by
  refine ⟨hfits, htags, fun hconflicts => ?_⟩
  rcases Mmc2.eq_of_hasTileLatches hlatches with rfl | rfl <;> cases hconflicts

namespace ImageSpec

/-- A synthesized image for a board with tile latches fails the latch check exactly if its pattern
memory is RAM. -/
theorem failures_run (hlatches : board.descriptor.hasTileLatches = true) {spec : ImageSpec}
    (h : spec.validate board = .ok ()) :
    spec.synthesize board =
        .ok (.ofParts board (taggedPrg spec.prgSize) spec.chr .vertical) ∧
      (Bench.run (Session.start board (Console.powerOn
          (.ofParts board (taggedPrg spec.prgSize) spec.chr .vertical)))).report.failures =
        if spec.chrRam then ({} : CheckSet).insert .chrLatches else {} := by
  have hsynthesize : spec.synthesize board =
      .ok (.ofParts board (taggedPrg spec.prgSize) spec.chr .vertical) := by
    rw [synthesize, h]
    rfl
  obtain ⟨hprg, hchr⟩ := validate_eq_ok.mp h
  have hleast := (sizeFits_eq_true.mp hchr).1
  have himage : PrgImage board (taggedPrg spec.prgSize) :=
    .of_hasTileLatches hlatches (by rwa [size_taggedPrg]) (hasPageTags_taggedPrg _)
  have hwhole : spec.chr.Whole := Chr.whole_of_fits (by rwa [size_chr])
  refine ⟨hsynthesize, ?_⟩
  rw [Bench.failures_run hlatches himage hwhole]
  cases hram : spec.chrRam with
  | true =>
    have hcleared : spec.chr = .ram spec.chrSize := by rw [chr, hram]; rfl
    rw [hcleared, if_neg (Board.latchNotes_ram hlatches hleast), if_pos rfl]
  | false =>
    have htagged : spec.chr = .rom (taggedChr spec.chrSize) := by rw [chr, hram]; rfl
    have htags : spec.chr.cells.HasPageTags chrPageSize := by
      rw [htagged]
      exact hasPageTags_taggedChr spec.chrSize
    rw [if_pos (Board.latchNotes_of_tags hwhole htags), if_neg Bool.false_ne_true]

end ImageSpec

/-- On a board with tile latches, with a PRG memory of an accepted size whose pages have numbers, a
run of the diagnostics passes exactly if the pattern memory, RAM or ROM, started out with the right
numbers in the four banks of the latch check; else it fails that check and no other. So it passes on
numbered ROM, and on every synthesized image with ROM and on none with RAM. -/
theorem latch_check_needs_numbers (board : Board) (hboard : board = .mmc2 ∨ board = .mmc4) :
    (∀ (prg : Memory) (chr : Chr) (solder : Mirroring),
      ImageSpec.validate
        { prgSize := prg.size, chrSize := chr.cells.size, chrRam := chr.writable } board = .ok () →
      prg.HasPageTags prgPageSize →
        let report := (Bench.run (Session.start board
          (Console.powerOn (Cartridge.ofParts board prg chr solder)))).report
        (report.passed = true ↔ ∀ entry ∈ board.descriptor.chrWindows.zipIdx,
          ¬ chr.cells.WrongBank 0x400 entry.1 (Bench.latchBank entry.1 entry.2)) ∧
        (report.passed = false → report.failures = ({} : CheckSet).insert .chrLatches) ∧
        (chr.cells.HasPageTags chrPageSize → report.passed = true)) ∧
      ∀ spec : ImageSpec, spec.validate board = .ok () →
        ∃ cart, spec.synthesize board = .ok cart ∧
          (Bench.run (Session.start board (Console.powerOn cart))).report.failures =
            if spec.chrRam then ({} : CheckSet).insert .chrLatches else {} := by
  have hlatches : board.descriptor.hasTileLatches = true := by
    rcases hboard with rfl | rfl <;> rfl
  refine ⟨fun prg chr solder hsizes htags => ?_, fun spec hvalid =>
    ⟨_, ImageSpec.failures_run hlatches hvalid⟩⟩
  intro report
  obtain ⟨hprg, hchr⟩ := ImageSpec.validate_eq_ok.mp hsizes
  have hwhole : chr.Whole := Chr.whole_of_fits hchr
  have hfailures : report.failures = _ :=
    Bench.failures_run hlatches (.of_hasTileLatches hlatches hprg htags) hwhole
  have hpassed : report.passed = true ↔ board.latchNotes chr = [] := by
    rw [Report.passed, hfailures]
    split
    next hnone => exact iff_of_true rfl hnone
    next hsome => exact iff_of_false (by decide) hsome
  refine ⟨hpassed.trans (Board.latchNotes_eq_nil_iff hlatches hwhole.pos), fun hfailed => ?_,
    fun hnumbers => hpassed.mpr (Board.latchNotes_of_tags hwhole hnumbers)⟩
  rw [hfailures, if_neg fun hnone => ?_]
  rw [hpassed.mpr hnone] at hfailed
  cases hfailed

/-- An MMC4 cartridge with RAM that happens to hold the numbers of its pages passes; the image of
the same sizes that is synthesized with RAM does not. -/
theorem latch_check_needs_numbers_mmc4 :
    let prg := taggedPrg 0x8000
    let chr : Chr := { cells := taggedChr 0x2000, writable := true }
    let spec : ImageSpec := { prgSize := 0x8000, chrSize := 0x2000, chrRam := true }
    ImageSpec.validate { prgSize := prg.size, chrSize := chr.cells.size, chrRam := chr.writable }
        .mmc4 = .ok () ∧
      prg.HasPageTags prgPageSize ∧
      (Bench.run (Session.start .mmc4
        (Console.powerOn (Cartridge.ofParts .mmc4 prg chr .vertical)))).report.passed = true ∧
      spec.validate .mmc4 = .ok () ∧
      ∃ cart, spec.synthesize .mmc4 = .ok cart ∧
        (Bench.run (Session.start .mmc4 (Console.powerOn cart))).report.failures =
          ({} : CheckSet).insert .chrLatches := by
  have hprg := size_taggedPrg 0x8000
  have htags := hasPageTags_taggedPrg 0x8000
  have hchr := size_taggedChr 0x2000
  have hnumbers := hasPageTags_taggedChr 0x2000
  generalize taggedPrg 0x8000 = image at hprg htags
  generalize taggedChr 0x2000 = tiles at hchr hnumbers
  intro prg chr spec
  have hsizes : ImageSpec.validate
      { prgSize := prg.size, chrSize := chr.cells.size, chrRam := chr.writable } .mmc4 =
        .ok () := by
    show ImageSpec.validate
      { prgSize := image.size, chrSize := tiles.size, chrRam := true } _ = _
    rw [hprg, hchr]
    decide
  have hvalid : spec.validate .mmc4 = .ok () := by decide
  obtain ⟨hparts, hsynthesized⟩ := latch_check_needs_numbers .mmc4 (.inr rfl)
  exact ⟨hsizes, htags, (hparts prg chr .vertical hsizes htags).2.2 hnumbers, hvalid,
    hsynthesized spec hvalid⟩

/-- The largest MMC2 image with CHR RAM: accepted, its PRG pages numbered, its RAM cleared, and
failed by the diagnostics. -/
theorem latch_check_fails_cleared_ram :
    let spec : ImageSpec := { ImageSpec.forBoard .mmc2 with chrRam := true }
    spec.validate .mmc2 = .ok () ∧ (taggedPrg spec.prgSize).HasPageTags prgPageSize ∧
      ∃ cart, spec.synthesize .mmc2 = .ok cart ∧
        (Bench.run (Session.start .mmc2 (Console.powerOn cart))).report.passed = false := by
  intro spec
  have hvalid : spec.validate .mmc2 = .ok () := by decide
  obtain ⟨hsynthesize, hfailures⟩ :=
    ImageSpec.failures_run (show Board.mmc2.descriptor.hasTileLatches = true from rfl) hvalid
  refine ⟨hvalid, hasPageTags_taggedPrg _, _, hsynthesize, ?_⟩
  rw [Report.passed, hfailures]
  rfl

end NesCartridge
