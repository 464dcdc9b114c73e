/-
  NesCartridge.Proofs.Diagnostics.PrgRoutines

  The two routines that look at PRG memory, on a healthy board. `prgBanks` counts each bank once and
  notes those that do not start with their number (`Bench.Judged.prgBanks_routine`), of which a test
  image has none (`Bench.Clean.prgBanks_routine`); `prgSize` finds the size of the memory, or of a
  window that is larger (`Bench.Clean.prgSize_routine`).
-/
import NesCartridge.Proofs.Diagnostics.Verdict

namespace NesCartridge

/-- Number of PRG banks that a board can select, over all its windows. -/
def Board.prgSelections (board : Board) : Nat :=
  (board.descriptor.prgWindows.map (·.maxBank + 1)).sum

/-- A PRG window counts its banks in whole pages. -/
theorem Board.prgWindow_pages {board : Board} {number : Nat} {window : Window}
    (hwindow : board.descriptor.prgWindows[number]? = some window) :
    0 < window.size ∧ prgPageSize ∣ window.size := by
  have hregistry : ∀ window ∈ board.descriptor.prgWindows,
      0 < window.size ∧ prgPageSize ∣ window.size := by
    cases board <;> decide
  exact hregistry window (List.mem_of_getElem? hwindow)

/-! ## Every bank -/

namespace Bench.Judged

variable {board : Board} {prg : Memory} {chr : Chr} {solder : Mirroring} {what : Check}
  {wrong : List Note} {prgs chrs : Nat} {report : Report} {bench : Bench} {number bank : Nat}
  {window : Window}

/-- Select a bank and see its first byte at the base of the window. -/
theorem ask_selectPrg (h : Judged board prg chr solder what wrong prgs chrs report bench)
    (hquiet : prg.Quiet board) (hprg : PrgLength prg.size)
    (hwindow : board.descriptor.prgWindows[number]? = some window) (hbank : bank ≤ window.maxBank)
    (check : Check) (text : String) :
    Returns (bench.ask check text (.selectPrg number bank)) fun next =>
      Judged board prg chr solder what wrong prgs chrs report next ∧
        prg[bank * window.size % prg.size]? = some (next.read window.base) := by
  obtain ⟨current, hshadow⟩ := h.healthy.ready
  apply (h.ask hquiet hshadow (.selectPrg hwindow hbank) check text).mono
  rintro next ⟨hnext, hafter⟩
  have hfits := (h.healthy.inStep.shadow current hshadow).1
  have hbase : window.base + UInt16.ofNat 0 = window.base := UInt16.add_zero _
  have hread := hnext.healthy.inStep.readCpu_window hprg hafter hwindow
    (Board.prgWindow_pages hwindow).1
  rw [hfits.prgBank_setPrg hwindow, if_pos rfl, Nat.add_zero, hbase] at hread
  exact ⟨hnext, hread⟩

/-- Select a bank, compare its number and count it. -/
theorem prgBank (h : Judged board prg chr solder .prgBanks wrong prgs chrs report bench)
    (hquiet : prg.Quiet board) (hprg : PrgLength prg.size)
    (hwindow : board.descriptor.prgWindows[number]? = some window) (hbank : bank ≤ window.maxBank) :
    Returns (Bench.prgBank window number bench bank)
      (Judged board prg chr solder .prgBanks
        (wrong ++ (prg.wrongTag? prgPageSize window bank (.prgBank number bank)).toList) (prgs + 1)
        chrs report) := by
  unfold Bench.prgBank
  apply (h.ask_selectPrg hquiet hprg hwindow hbank .prgBanks "PRG bank").bind
  rintro next ⟨hnext, hread⟩
  have hfound := hnext.found.compare prgPageSize (by decide) hprg.pos hprg.page_dvd hread
    (.prgBank number bank)
  rw [hnext.clean.prgRomSize_eq]
  exact Returns.pure ⟨hnext.healthy, hnext.patterns, hfound.prgSelection⟩

/-- All banks of one window, and back to bank 0. -/
theorem prgWindow (h : Judged board prg chr solder .prgBanks wrong prgs chrs report bench)
    (hquiet : prg.Quiet board) (hprg : PrgLength prg.size)
    (hwindow : board.descriptor.prgWindows[number]? = some window) :
    Returns (bench.prgWindow (window, number))
      (Judged board prg chr solder .prgBanks
        (wrong ++ prg.wrongBanks prgPageSize .prgBank [(window, number)])
        (prgs + (window.maxBank + 1)) chrs report) := by
  have hbanks := h.foldlM (Bench.prgBank window number) window.banks
    (fun bank => (prg.wrongTag? prgPageSize window bank (.prgBank number bank)).toList)
    (fun _ => 1) (fun _ => 0)
    fun bank hmem _ _ _ _ hnow =>
      hnow.prgBank hquiet hprg hwindow (Window.le_maxBank_of_mem hmem)
  unfold Bench.prgWindow
  apply hbanks.bind
  intro last hlast
  apply Returns.pure
  rw [← Memory.wrongBanks_singleton, List.map_const', List.sum_replicate_nat, Window.length_banks,
    Nat.mul_one, List.sum_map_zero] at hlast
  exact ((hlast.ask_selectPrg hquiet hprg hwindow (Nat.zero_le _) .prgBanks "PRG bank").mono
    fun _ hnext => hnext.1).finish

/-- Every bank of every window is compared and counted, and each wrong one noted. -/
theorem prgBanks_routine (h : Judged board prg chr solder .prgBanks wrong prgs chrs report bench)
    (hquiet : prg.Quiet board) (hprg : PrgLength prg.size) :
    Judged board prg chr solder .prgBanks
      (wrong ++ prg.wrongBanks prgPageSize .prgBank board.descriptor.prgWindows.zipIdx)
      (prgs + board.prgSelections) chrs report bench.prgBanks := by
  have hwindows := h.foldlM Bench.prgWindow board.descriptor.prgWindows.zipIdx
    (fun entry => prg.wrongBanks prgPageSize .prgBank [entry]) (fun entry => entry.1.maxBank + 1)
    (fun _ => 0)
    fun entry hmem _ _ _ _ hnow =>
      hnow.prgWindow hquiet hprg (List.mem_zipIdx_iff_getElem?.mp hmem)
  unfold Bench.prgBanks
  rw [h.clean.desc_eq]
  rw [Memory.flatMap_wrongBanks, List.sum_map_zero,
    sum_zipIdx board.descriptor.prgWindows (·.maxBank + 1)] at hwindows
  exact hwindows.finish

end Bench.Judged

/-- In a test image no bank is wrong. -/
theorem PrgImage.wrongBanks {board : Board} {prg : Memory} (h : PrgImage board prg) :
    prg.wrongBanks prgPageSize .prgBank board.descriptor.prgWindows.zipIdx = [] := by
  refine Memory.wrongBanks_eq_nil fun entry hentry bank _ => ?_
  exact h.tags.wrongTag? (by decide) h.length.pos h.length.page_dvd
    (Board.prgWindow_pages (List.mem_zipIdx_iff_getElem?.mp hentry)).2 bank _

namespace Bench.Clean

variable {board : Board} {prg : Memory} {chr : Chr} {solder : Mirroring} {report : Report}
  {bench : Bench}

/-- Every bank of every window is found and counted. -/
theorem prgBanks_routine (h : Clean board prg chr solder report bench)
    (himage : PrgImage board prg) :
    Clean board prg chr solder (report.counting board.prgSelections) bench.prgBanks ∧
      bench.prgBanks.console.patterns = bench.console.patterns := by
  have hjudged := (Judged.of_clean h .prgBanks).prgBanks_routine himage.quiet himage.length
  rw [himage.wrongBanks, List.append_nil, Nat.zero_add] at hjudged
  exact ⟨hjudged.clean_of_start h h.healthy.patterns, hjudged.patterns⟩

end Bench.Clean

/-! ## The size -/

/-- The first PRG window counts its banks in a power of two, has a power of two of them, and reaches
the end of every image that is accepted. -/
theorem Board.firstPrgWindow {board : Board} {window : Window}
    (h : board.descriptor.prgWindows[0]? = some window) :
    ∃ j m, 13 ≤ j ∧ 0 < m ∧ window.size = 2 ^ j ∧ window.maxBank + 1 = 2 ^ m ∧
      Bench.doublings window = (List.range' 0 m).map (2 ^ ·) ∧
      (ImageSpec.forBoard board).prgSize ≤ 2 ^ (j + m) := by
  have hregistry : ∀ window, board.descriptor.prgWindows[0]? = some window →
      ∃ j ≤ 15, ∃ m ≤ 6, 13 ≤ j ∧ 0 < m ∧ window.size = 2 ^ j ∧ window.maxBank + 1 = 2 ^ m ∧
        Bench.doublings window = (List.range' 0 m).map (2 ^ ·) ∧
        (ImageSpec.forBoard board).prgSize ≤ 2 ^ (j + m) := by
    intro window h
    cases board with
    | nrom | cnRom => cases h
    | _ => cases h; decide
  obtain ⟨j, -, m, -, hfacts⟩ := hregistry window h
  exact ⟨j, m, hfacts⟩

theorem PrgImage.size_le {board : Board} {prg : Memory} (h : PrgImage board prg) :
    prg.size ≤ 2 ^ 19 := by
  have hmost := (ImageSpec.sizeFits_eq_true.mp h.fits).2.2
  have hregistry : (ImageSpec.forBoard board).prgSize ≤ 2 ^ 19 := by
    cases board <;> decide
  exact Nat.le_trans hmost hregistry

/-- In a memory of up to 256 pages the tag of bank `2 ^ i` is that of bank 0 only when the bank lies
past the end. -/
theorem pageTag_two_pow {window : Window} {j k : Nat} (hsize : window.size = 2 ^ j) (hj : 13 ≤ j)
    (hk : 13 ≤ k) (hk' : k ≤ 21) (i : Nat) :
    pageTag (2 ^ i) window prgPageSize (2 ^ k) = pageTag 0 window prgPageSize (2 ^ k) ↔
      k ≤ i + j := by
  have hpages : 2 ^ k / prgPageSize = 2 ^ (k - 13) := Nat.pow_div hk Nat.two_pos
  have hbank : 2 ^ i * window.size / prgPageSize = 2 ^ (i + j - 13) := by
    rw [hsize, ← Nat.pow_add]
    exact Nat.pow_div (show 13 ≤ i + j by omega) Nat.two_pos
  have hmax : Nat.max (2 ^ (k - 13)) 1 = 2 ^ (k - 13) := Nat.max_eq_left (Nat.two_pow_pos _)
  -- Tags are bytes, so with more pages than that different banks could carry the same tag.
  have hfew : 2 ^ (k - 13) ≤ 256 := by
    have hle : 2 ^ (k - 13) ≤ 2 ^ 8 := Nat.pow_le_pow_right (by omega) (by omega)
    exact hle
  have hlt : 2 ^ (i + j - 13) % 2 ^ (k - 13) < 2 ^ (k - 13) := Nat.mod_lt _ (Nat.two_pow_pos _)
  have hzero : 0 * window.size / prgPageSize % 2 ^ (k - 13) = 0 := by
    rw [Nat.zero_mul, Nat.zero_div, Nat.zero_mod]
  rw [pageTag, pageTag, hpages, hmax, hbank, hzero, ← UInt8.toNat_inj,
    toNat_ofNat_of_le (by omega)]
  show 2 ^ (i + j - 13) % 2 ^ (k - 13) = 0 ↔ k ≤ i + j
  rw [← Nat.dvd_iff_mod_eq_zero, Nat.pow_dvd_pow_iff_le_right (by omega)]
  omega

/-- What a look for the PRG size finds, on boards that have a PRG window. -/
def Board.shownPrgSize? (board : Board) (prg : Memory) : Option Nat :=
  board.descriptor.prgWindows.head?.map fun window => Nat.max prg.size window.size

/-- The report after a look for the PRG size. -/
def Report.sized (report : Report) (board : Board) (prg : Memory) : Report :=
  { report with prgSize := (board.shownPrgSize? prg).or report.prgSize }

namespace Bench.Judged

variable {board : Board} {prg : Memory} {chr : Chr} {solder : Mirroring} {what : Check}
  {wrong : List Note} {prgs chrs : Nat} {report : Report} {bench : Bench} {number bank : Nat}
  {window : Window}

/-- In a test image a bank shows the number of its page. -/
theorem ask_tagged (h : Judged board prg chr solder what wrong prgs chrs report bench)
    (himage : PrgImage board prg) (hwindow : board.descriptor.prgWindows[number]? = some window)
    (hbank : bank ≤ window.maxBank) (check : Check) (text : String) :
    Returns (bench.ask check text (.selectPrg number bank)) fun next =>
      Judged board prg chr solder what wrong prgs chrs report next ∧
        next.read window.base = pageTag bank window prgPageSize prg.size := by
  apply (h.ask_selectPrg himage.quiet himage.length hwindow hbank check text).mono
  rintro next ⟨hnext, hread⟩
  rw [himage.tags.pageTag (by decide) himage.length.pos himage.length.page_dvd
    (Board.prgWindow_pages hwindow).2] at hread
  exact ⟨hnext, (Option.some.inj hread).symm⟩

/-- Doubling the bank number meets bank 0 again at the end of the memory, or runs out of banks
there. -/
theorem findRepeat (himage : PrgImage board prg)
    (hwindow : board.descriptor.prgWindows[0]? = some window) {j k m : Nat}
    (hj : 13 ≤ j) (hm : 0 < m) (hsize : window.size = 2 ^ j) (hbanks : window.maxBank + 1 = 2 ^ m)
    (hprg : prg.size = 2 ^ k) (hk : 13 ≤ k) (hk' : k ≤ 21) (hreach : k ≤ j + m) {len i : Nat}
    (hlen : i + len = m) (hbefore : i = 0 ∨ i + j ≤ k)
    (h : Judged board prg chr solder what wrong prgs chrs report bench) :
    Returns (Bench.findRepeat window (pageTag 0 window prgPageSize prg.size)
        ((List.range' i len).map (2 ^ ·)) bench)
      fun found => found.1 = Nat.max prg.size window.size ∧
        Judged board prg chr solder what wrong prgs chrs report found.2 := by
  -- The induction is on the doublings left. No bank below `2 ^ i` has met bank 0 again, so the
  -- memory reaches at least to where bank `2 ^ i` starts, unless that is bank 1.
  induction len generalizing i bench with
  | zero =>
    refine ⟨(window.reach, bench), rfl, ?_, h⟩
    have hall : k = m + j := by omega
    show (window.maxBank + 1) * window.size = Nat.max prg.size window.size
    rw [hbanks, hsize, hprg, hall, ← Nat.pow_add]
    exact (Nat.max_eq_left (Nat.pow_le_pow_right (by omega) (by omega))).symm
  | succ len ih =>
    have hfits : 2 ^ i ≤ window.maxBank := by
      have hlt : 2 ^ i < 2 ^ m := Nat.pow_lt_pow_right (by omega) (by omega)
      omega
    rw [List.range'_succ, List.map_cons, Bench.findRepeat]
    apply (h.ask_tagged himage hwindow hfits .prgSize "PRG size").bind
    rintro next ⟨hnext, hread⟩
    have hrepeats := pageTag_two_pow hsize hj hk hk' i
    rw [hread, hprg]
    by_cases hdone : k ≤ i + j
    · rw [if_pos (beq_iff_eq.mpr (hrepeats.mpr hdone))]
      refine Returns.pure ⟨?_, hnext⟩
      show 2 ^ i * window.size = Nat.max (2 ^ k) window.size
      rw [hsize, ← Nat.pow_add]
      -- Bank 1 may lie past the end of a memory that the window is larger than.
      rcases hbefore with rfl | hbefore
      · rw [Nat.zero_add]
        exact (Nat.max_eq_right (Nat.pow_le_pow_right (by omega) (by omega))).symm
      · rw [show i + j = k by omega]
        exact (Nat.max_eq_left (Nat.pow_le_pow_right (by omega) (by omega))).symm
    · rw [if_neg fun heq => hdone (hrepeats.mp (beq_iff_eq.mp heq)), ← hprg]
      exact ih (by omega) (Or.inr (by omega)) hnext

end Bench.Judged

namespace Bench.Clean

variable {board : Board} {prg : Memory} {chr : Chr} {solder : Mirroring} {report : Report}
  {bench : Bench}

/-- The size that the routine finds is that of the memory, or of a window that is larger. -/
theorem prgSize_routine (h : Clean board prg chr solder report bench)
    (himage : PrgImage board prg) :
    Clean board prg chr solder (report.sized board prg) bench.prgSize ∧
      bench.prgSize.console.patterns = bench.console.patterns := by
  unfold Bench.prgSize Report.sized Board.shownPrgSize?
  rw [h.desc_eq]
  cases hwindows : board.descriptor.prgWindows with
  | nil => exact ⟨h, rfl⟩
  | cons window rest =>
    have hwindow : board.descriptor.prgWindows[0]? = some window := by rw [hwindows]; rfl
    obtain ⟨j, m, hj, hm, hsize, hbanks, hdoublings, hreach⟩ := Board.firstPrgWindow hwindow
    -- Sizes are compared by their exponents from here on.
    obtain ⟨hleast, ⟨k, hk⟩, hmost⟩ := ImageSpec.sizeFits_eq_true.mp himage.fits
    have hlow : 13 ≤ k := by
      have hpow : 2 ^ 13 ≤ 2 ^ k := by rw [← hk]; exact Nat.le_trans (by decide) hleast
      exact (Nat.pow_le_pow_iff_right (by omega)).mp hpow
    have hhigh : k ≤ 19 := by
      have hpow : 2 ^ k ≤ 2 ^ 19 := by rw [← hk]; exact himage.size_le
      exact (Nat.pow_le_pow_iff_right (by omega)).mp hpow
    have hwithin : k ≤ j + m := by
      have hpow : 2 ^ k ≤ 2 ^ (j + m) := by rw [← hk]; exact Nat.le_trans hmost hreach
      exact (Nat.pow_le_pow_iff_right (by omega)).mp hpow
    apply Returns.finish (Q := fun last => Clean board prg chr solder _ last ∧
      last.console.patterns = bench.console.patterns)
    have hbegin := Judged.of_clean h .prgSize
    apply (hbegin.ask_tagged himage hwindow (Nat.zero_le _) .prgSize "PRG size").bind
    rintro first ⟨hfirst, hread⟩
    rw [hread, hdoublings]
    refine (Judged.findRepeat himage hwindow hj hm hsize hbanks hk hlow (by omega) hwithin
      (Nat.zero_add m) (Or.inl rfl) hfirst).bind ?_
    rintro ⟨size, found⟩ ⟨hfound, hjudged⟩
    apply (hjudged.ask_tagged himage hwindow (Nat.zero_le _) .prgSize "PRG size").bind
    rintro last ⟨hlast, -⟩
    have hclean := hlast.clean_of_start h h.healthy.patterns
    have hnoted : Clean board prg chr solder
        { report with prgSize := some (Nat.max prg.size window.size) }
        (last.onReport fun r => { r with prgSize := some size }) :=
      ⟨hclean.healthy, hclean.failures, hclean.prgBanks, congrArg some hfound⟩
    have hstated : decide (size = Nat.max (last.onReport fun r =>
        { r with prgSize := some size }).header.prgRomSize window.size) = true := by
      rw [hnoted.prgRomSize_eq]
      exact decide_eq_true hfound
    exact Returns.pure ⟨hnoted.check hstated .prgSize _, hlast.patterns⟩

end Bench.Clean

end NesCartridge
