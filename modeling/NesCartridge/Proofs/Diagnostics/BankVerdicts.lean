/-
  NesCartridge.Proofs.Diagnostics.BankVerdicts

  The bank checks decide what a ROM holds. On any cartridge with CHR ROM, with any bytes in it,
  the routines `prgBanks` and `chrBanks` leave one note for each bank that does not start with the
  number of its page, and none for any other, and fail just the checks that have such a bank
  (`bank_verdicts_exact`).
-/
import NesCartridge.Proofs.Diagnostics.ChrRoutines
import NesCartridge.Proofs.Diagnostics.PrgRoutines

namespace NesCartridge

/-- On any cartridge with CHR ROM, whatever bytes it holds and in whatever state its board is once
it has been brought up, `prgBanks` and then `chrBanks` note just the wrong banks, in order, fail
just the checks that have one, and count every bank. -/
theorem bank_verdicts_exact (board : Board) (prg : Memory) (chr : Chr) (solder : Mirroring)
    (hprg : PrgLength prg.size)
    (htables : board.descriptor.busConflicts = true → prg.HasIdentityTables)
    (hrom : chr.writable = false) (hpos : 0 < chr.cells.size) (hdvd : 0x2000 ∣ chr.cells.size)
    (script : Script Action) (hspares : script.Forall Action.SparesRegisters) :
    let ran := script.run Action.perform
      (Session.start board (Console.powerOn (Cartridge.ofParts board prg chr solder)))
    let prgWindows := board.descriptor.prgWindows.zipIdx
    let chrWindows := board.descriptor.chrWindows.zipIdx.filter (·.1.latch.isNone)
    ran.2.controller.isReady = true →
      let report := (Bench.performAll [.prgBanks, .chrBanks] (Bench.start ran.2)).report
      report.notes.toList =
          prg.wrongBanks 0x2000 .prgBank prgWindows ++
            chr.cells.wrongBanks 0x400 .chrBank chrWindows ∧
        (∀ check, report.failures.contains check = true ↔
          check = .prgBanks ∧ (∃ entry ∈ prgWindows, ∃ bank ≤ entry.1.maxBank,
              prg.WrongBank 0x2000 entry.1 bank) ∨
            check = .chrBanks ∧ ∃ entry ∈ chrWindows, ∃ bank ≤ entry.1.maxBank,
              chr.cells.WrongBank 0x400 entry.1 bank) ∧
        report.prgBanks = (prgWindows.map (·.1.maxBank + 1)).sum ∧
        report.chrBanks = (chrWindows.map (·.1.maxBank + 1)).sum := by
  intro ran prgWindows chrWindows hready report
  have hquiet : prg.Quiet board := fun hconflicts => ⟨hprg, htables hconflicts⟩
  have hstart : InStep board prg solder
      (Session.start board (Console.powerOn (Cartridge.ofParts board prg chr solder))) :=
    InStep.start rfl
  have hhealthy : Healthy board prg chr solder ran.2 :=
    hstart.healthy_run hquiet rfl (Chr.sameKind_refl _) hspares hready
  have hbegin : Bench.Judged board prg chr solder .prgBanks [] 0 0
      { board := ran.2.controller.board } (Bench.start ran.2) :=
    ⟨hhealthy, hhealthy.patterns.rom hrom, Report.found_nothing ..⟩
  have hfirst := hbegin.prgBanks_routine hquiet hprg
  -- The second check is judged from the report that the first left, so the two stay apart.
  have hbetween : Bench.Judged board prg chr solder .chrBanks [] 0 0 _
      (Bench.start ran.2).prgBanks :=
    ⟨hfirst.healthy, hfirst.patterns, Report.found_nothing ..⟩
  have hsecond := hbetween.chrBanks_routine hquiet ⟨hpos, hdvd⟩ hrom
  have hprgs := hfirst.found
  have hchrs := hsecond.found
  rw [List.nil_append] at hprgs hchrs
  refine ⟨?_, fun check => ?_, ?_, ?_⟩
  · exact hchrs.notes.trans (congrArg (· ++ _) hprgs.notes)
  · have hnone : ¬ ({} : CheckSet).contains check = true := by cases check <;> decide
    refine (hchrs.contains_iff check).trans (or_congr ?_ ?_)
    · exact ((hprgs.contains_iff check).trans (or_iff_right hnone)).trans
        (and_congr_right fun _ => Memory.wrongBanks_ne_nil_iff hprg.pos _ _)
    · exact and_congr_right fun _ => Memory.wrongBanks_ne_nil_iff hpos _ _
  · have hcount : (prgWindows.map (·.1.maxBank + 1)).sum = board.prgSelections :=
      sum_zipIdx board.descriptor.prgWindows (·.maxBank + 1)
    have hprgs' : report.prgBanks = 0 + (0 + board.prgSelections) + 0 :=
      hchrs.prgBanks.trans (congrArg (· + 0) hprgs.prgBanks)
    omega
  · have hchrs' : report.chrBanks = 0 + 0 + (0 + (chrWindows.map (·.1.maxBank + 1)).sum) :=
      hchrs.chrBanks.trans (congrArg (· + _) hprgs.chrBanks)
    omega

/-- Zeros for a ROM: bank 1 of either kind has another number, both checks fail, and all 16 and 64
banks are read back. -/
theorem bank_verdicts_exact_zeros :
    let prg : Memory := Array.replicate 0x8000 0
    let chr := Chr.rom (Array.replicate 0x2000 0)
    let script : Script Action :=
      .act (.request .bringUp) (.handler (.act (.request (.selectPrg 0 3)) .done)
        (.act (.readPpu 0x1000) .done))
    let ran := script.run Action.perform
      (Session.start .mmc1 (Console.powerOn (Cartridge.ofParts .mmc1 prg chr .vertical)))
    let report := (Bench.performAll [.prgBanks, .chrBanks] (Bench.start ran.2)).report
    PrgLength prg.size ∧ chr.writable = false ∧ 0 < chr.cells.size ∧ 0x2000 ∣ chr.cells.size ∧
      script.Forall Action.SparesRegisters ∧ ran.2.controller.isReady = true ∧
      report.failures.contains .prgBanks = true ∧ report.failures.contains .chrBanks = true ∧
      report.failures.contains .control ≠ true ∧ report.prgBanks = 16 ∧ report.chrBanks = 64 := by
  have hprg : (Array.replicate 0x8000 (0 : UInt8)).size = 0x8000 := Array.size_replicate
  have hchr : (Array.replicate 0x2000 (0 : UInt8)).size = 0x2000 := Array.size_replicate
  have hcode : (Array.replicate 0x8000 (0 : UInt8))[0x4000]? = some 0 := by
    rw [Array.getElem?_replicate, if_pos (by omega)]
  have htile : (Array.replicate 0x2000 (0 : UInt8))[0x1000]? = some 0 := by
    rw [Array.getElem?_replicate, if_pos (by omega)]
  generalize Array.replicate 0x8000 (0 : UInt8) = code at hprg hcode
  generalize Array.replicate 0x2000 (0 : UInt8) = tiles at hchr htile
  intro prg chr script
  -- `ran` and `report` stay closed: with them open the run would be evaluated again and again.
  have hlength : PrgLength prg.size := Or.inr (by rw [hprg]; decide)
  have hpos : 0 < chr.cells.size := by
    show 0 < tiles.size
    omega
  have hdvd : 0x2000 ∣ chr.cells.size := by
    show 0x2000 ∣ tiles.size
    omega
  have hspares : script.Forall Action.SparesRegisters :=
    ⟨trivial, ⟨trivial, trivial⟩, trivial, trivial⟩
  have hready : (script.run Action.perform (Session.start .mmc1 (Console.powerOn
      (Cartridge.ofParts .mmc1 prg chr .vertical)))).2.controller.isReady = true := rfl
  obtain ⟨-, hfailures, hprgs, hchrs⟩ := bank_verdicts_exact .mmc1 prg chr .vertical hlength
    (fun h => nomatch h) rfl hpos hdvd script hspares hready
  have hwrongPrg : prg.WrongBank 0x2000 ⟨0x8000, 0x4000, 15, none⟩ 1 := by
    show code[1 * 0x4000 % code.size]? ≠
      some (UInt8.ofNat (1 * 0x4000 / 0x2000 % (code.size / 0x2000)))
    rw [hprg]
    show code[0x4000]? ≠ _
    rw [hcode]
    decide
  have hwrongChr : chr.cells.WrongBank 0x400 ⟨0x0000, 0x1000, 31, none⟩ 1 := by
    show tiles[1 * 0x1000 % tiles.size]? ≠
      some (UInt8.ofNat (1 * 0x1000 / 0x400 % (tiles.size / 0x400)))
    rw [hchr]
    show tiles[0x1000]? ≠ _
    rw [htile]
    decide
  refine ⟨hlength, rfl, hpos, hdvd, hspares, hready, ?_, ?_, ?_,
    hprgs.trans (by decide), hchrs.trans (by decide)⟩
  · have hmem : ((⟨0x8000, 0x4000, 15, none⟩, 0) : Window × Nat) ∈
        Board.mmc1.descriptor.prgWindows.zipIdx := by decide
    exact (hfailures .prgBanks).mpr (.inl ⟨rfl, _, hmem, 1, by decide, hwrongPrg⟩)
  · have hmem : ((⟨0x0000, 0x1000, 31, none⟩, 0) : Window × Nat) ∈
        Board.mmc1.descriptor.chrWindows.zipIdx.filter (·.1.latch.isNone) := by decide
    exact (hfailures .chrBanks).mpr (.inr ⟨rfl, _, hmem, 1, by decide, hwrongChr⟩)
  · intro hcontrol
    rcases (hfailures .control).mp hcontrol with ⟨hother, -⟩ | ⟨hother, -⟩ <;> cases hother

end NesCartridge
