/-
  NesCartridge.Proofs.Diagnostics.Verdict

  What a routine that compares page numbers adds to a report, whatever the memories hold. A bank is
  wrong if its first byte is not the number of the page that it starts with (`Memory.wrongTag?`);
  each wrong bank gets one note, and the check fails if there is one (`Report.Found`). The loops of
  the routines add up what their passes find (`Bench.Judged.foldlM`), on a healthy board with
  nobody writing to pattern memory.
-/
import Mathlib.Algebra.BigOperators.Group.List.Basic
import NesCartridge.Proofs.Diagnostics.BenchSteps

namespace NesCartridge

/-! ## Wrong banks -/

/-- The note on a bank of a window that does not start with the number of its page. Banks past the
end of the memory repeat. -/
def Memory.wrongTag? (mem : Memory) (pageSize : Nat) (window : Window) (bank : Nat)
    (note : UInt8 → UInt8 → Note) : Option Note :=
  let got := mem.getD (bank * window.size % mem.size) 0
  let expected := UInt8.ofNat (bank * window.size / pageSize % (mem.size / pageSize))
  if got = expected then none else some (note got expected)

/-- The bank of a window does not start with the number of its page, a byte. -/
def Memory.WrongBank (mem : Memory) (pageSize : Nat) (window : Window) (bank : Nat) : Prop :=
  mem[bank * window.size % mem.size]? ≠
    some (UInt8.ofNat (bank * window.size / pageSize % (mem.size / pageSize)))

/-- The notes on the wrong banks of some windows, window by window and bank by bank. -/
def Memory.wrongBanks (mem : Memory) (pageSize : Nat)
    (note : Nat → Nat → UInt8 → UInt8 → Note) (windows : List (Window × Nat)) : List Note :=
  windows.flatMap fun entry => entry.1.banks.filterMap fun bank =>
    mem.wrongTag? pageSize entry.1 bank (note entry.2 bank)

theorem Memory.wrongBanks_singleton (mem : Memory) (pageSize : Nat)
    (note : Nat → Nat → UInt8 → UInt8 → Note) (window : Window) (number : Nat) :
    mem.wrongBanks pageSize note [(window, number)] =
      window.banks.flatMap fun bank =>
        (mem.wrongTag? pageSize window bank (note number bank)).toList := by
  rw [wrongBanks, List.flatMap_singleton, List.filterMap_eq_flatMap_toList]

theorem Memory.flatMap_wrongBanks (mem : Memory) (pageSize : Nat)
    (note : Nat → Nat → UInt8 → UInt8 → Note) (windows : List (Window × Nat)) :
    windows.flatMap (fun entry => mem.wrongBanks pageSize note [entry]) =
      mem.wrongBanks pageSize note windows := by
  simp only [wrongBanks, List.flatMap_singleton]

theorem Memory.wrongTag?_eq_none {mem : Memory} {pageSize : Nat} (hpage : 0 < pageSize)
    (hpos : 0 < mem.size) (hmem : pageSize ∣ mem.size) {window : Window} {bank : Nat}
    (htag : mem[bank * window.size % mem.size]? = some (pageTag bank window pageSize mem.size))
    (note : UInt8 → UInt8 → Note) : mem.wrongTag? pageSize window bank note = none := by
  rw [pageTag_eq hpage hpos hmem] at htag
  rw [Memory.wrongTag?, Array.getD_eq_getD_getElem?, htag]
  exact if_pos rfl

/-- In a memory whose pages carry their numbers no bank is wrong. -/
theorem Memory.HasPageTags.wrongTag? {mem : Memory} {pageSize : Nat} (h : mem.HasPageTags pageSize)
    (hpage : 0 < pageSize) (hpos : 0 < mem.size) (hmem : pageSize ∣ mem.size) {window : Window}
    (hwindow : pageSize ∣ window.size) (bank : Nat) (note : UInt8 → UInt8 → Note) :
    mem.wrongTag? pageSize window bank note = none :=
  wrongTag?_eq_none hpage hpos hmem (h.pageTag hpage hpos hmem hwindow bank) note

/-- If no bank of some windows is wrong, there is nothing to note. -/
theorem Memory.wrongBanks_eq_nil {mem : Memory} {pageSize : Nat}
    {note : Nat → Nat → UInt8 → UInt8 → Note} {windows : List (Window × Nat)}
    (h : ∀ entry ∈ windows, ∀ bank ∈ entry.1.banks,
      mem.wrongTag? pageSize entry.1 bank (note entry.2 bank) = none) :
    mem.wrongBanks pageSize note windows = [] :=
  List.flatMap_eq_nil_iff.mpr fun entry hentry =>
    List.filterMap_eq_nil_iff.mpr fun bank hbank => h entry hentry bank hbank

namespace Memory

variable {mem : Memory} {pageSize : Nat} {window : Window} {bank : Nat}

theorem wrongTag?_ne_none_iff (hpos : 0 < mem.size) (note : UInt8 → UInt8 → Note) :
    mem.wrongTag? pageSize window bank note ≠ none ↔ mem.WrongBank pageSize window bank := by
  have hlt : bank * window.size % mem.size < mem.size := Nat.mod_lt _ hpos
  rw [wrongTag?, WrongBank, Array.getD_eq_getD_getElem?, Array.getElem?_eq_getElem hlt,
    Option.getD_some]
  split
  next heq => exact iff_of_false (fun h => h rfl) (fun h => h (congrArg some heq))
  next hne => exact iff_of_true nofun (fun h => hne (Option.some.inj h))

theorem wrongBanks_ne_nil_iff (hpos : 0 < mem.size) (note : Nat → Nat → UInt8 → UInt8 → Note)
    (windows : List (Window × Nat)) :
    mem.wrongBanks pageSize note windows ≠ [] ↔
      ∃ entry ∈ windows, ∃ bank ≤ entry.1.maxBank, mem.WrongBank pageSize entry.1 bank := by
  rw [wrongBanks, ne_eq, List.flatMap_eq_nil_iff]
  simp only [List.filterMap_eq_nil_iff, not_forall, wrongTag?_ne_none_iff hpos,
    Window.banks, List.mem_range, Nat.lt_succ_iff, exists_prop]

end Memory

/-! ## What a check adds to a report -/

namespace Report

/-- After a check the report has these notes more, the check among its failures if there are any,
and so many more bank selections read back. -/
structure Found (what : Check) (wrong : List Note) (prgs chrs : Nat) (before after : Report) :
    Prop where
  notes : after.notes.toList = before.notes.toList ++ wrong
  failures : after.failures = if wrong = [] then before.failures else before.failures.insert what
  prgBanks : after.prgBanks = before.prgBanks + prgs
  chrBanks : after.chrBanks = before.chrBanks + chrs
  prgSize : after.prgSize = before.prgSize

variable {what : Check} {wrong : List Note} {prgs chrs : Nat} {before after : Report}

/-- A check fails if it found something wrong, or had failed before. -/
theorem Found.contains_iff (h : Found what wrong prgs chrs before after) (check : Check) :
    after.failures.contains check = true ↔
      before.failures.contains check = true ∨ check = what ∧ wrong ≠ [] := by
  rw [h.failures]
  split
  next hnone => simp [hnone]
  next hsome => rw [CheckSet.contains_insert, and_iff_left hsome]

theorem found_nothing (what : Check) (report : Report) : Found what [] 0 0 report report :=
  ⟨(List.append_nil _).symm, rfl, rfl, rfl, rfl⟩

/-- One more comparison. -/
theorem Found.check (h : Found what wrong prgs chrs before after) (ok : Bool) (note : Note) :
    Found what (wrong ++ if ok then [] else [note]) prgs chrs before
      (after.check what ok note) := by
  cases ok with
  | true =>
    rw [if_pos rfl, List.append_nil]
    exact ⟨h.notes, h.failures, h.prgBanks, h.chrBanks, h.prgSize⟩
  | false =>
    have hsome : wrong ++ [note] ≠ [] := by simp
    rw [if_neg Bool.false_ne_true]
    refine ⟨?_, ?_, h.prgBanks, h.chrBanks, h.prgSize⟩
    · show (after.notes.push note).toList = _
      rw [Array.toList_push, h.notes, List.append_assoc]
    · show after.failures.insert what = _
      rw [h.failures, if_neg hsome]
      split
      next => rfl
      next => exact CheckSet.insert_insert ..

theorem Found.prgSelection (h : Found what wrong prgs chrs before after) :
    Found what wrong (prgs + 1) chrs before { after with prgBanks := after.prgBanks + 1 } :=
  ⟨h.notes, h.failures, congrArg (· + 1) h.prgBanks, h.chrBanks, h.prgSize⟩

theorem Found.chrSelection (h : Found what wrong prgs chrs before after) :
    Found what wrong prgs (chrs + 1) before { after with chrBanks := after.chrBanks + 1 } :=
  ⟨h.notes, h.failures, h.prgBanks, congrArg (· + 1) h.chrBanks, h.prgSize⟩

/-- A comparison with the number of a page. -/
theorem Found.compare (h : Found what wrong prgs chrs before after) {mem : Memory}
    (pageSize : Nat) (hpage : 0 < pageSize) (hpos : 0 < mem.size) (hdvd : pageSize ∣ mem.size)
    {window : Window} {bank : Nat} {got : UInt8}
    (hgot : mem[bank * window.size % mem.size]? = some got) (note : UInt8 → UInt8 → Note) :
    let expected := pageTag bank window pageSize mem.size
    Found what (wrong ++ (mem.wrongTag? pageSize window bank note).toList) prgs chrs before
      (after.check what (got == expected) (note got expected)) := by
  intro expected
  have hwrong : (if (got == expected) = true then [] else [note got expected]) =
      (mem.wrongTag? pageSize window bank note).toList := by
    rw [Memory.wrongTag?, Array.getD_eq_getD_getElem?, hgot, ← pageTag_eq hpage hpos hdvd]
    simp only [beq_iff_eq, Option.getD_some]
    split
    next => rfl
    next => rfl
  rw [← hwrong]
  exact h.check (got == expected) (note got expected)

end Report

theorem Window.length_banks (window : Window) : window.banks.length = window.maxBank + 1 :=
  List.length_range

/-- Numbering some windows does not change what is added up over them. -/
theorem sum_zipIdx (windows : List Window) (count : Window → Nat) :
    (windows.zipIdx.map fun entry : Window × Nat => count entry.1).sum =
      (windows.map count).sum := by
  rw [← List.zipIdx_map_fst 0 windows, List.map_map, List.zipIdx_map_fst]
  rfl

/-- A report with more PRG bank selections counted. -/
def Report.counting (report : Report) (more : Nat) : Report :=
  { report with prgBanks := report.prgBanks + more }

/-! ## Passes over a healthy board -/

namespace Healthy

variable {board : Board} {prg : Memory} {chr other : Chr} {solder : Mirroring}
  {session : Session Console}

/-- Memory of one size and kind is as good as another. -/
theorem of_sameKind (h : Healthy board prg chr solder session) (hkind : other.SameKind chr) :
    Healthy board prg other solder session := by
  refine ⟨h.inStep, h.ready, ?_, hkind.trans h.patterns⟩
  rw [h.header, Cartridge.ofParts, Cartridge.ofParts, hkind.size, hkind.writable]

end Healthy

namespace Bench

/-- The board is healthy with just this pattern memory, and so much was found since the report was
the one given. -/
structure Judged (board : Board) (prg : Memory) (chr : Chr) (solder : Mirroring) (what : Check)
    (wrong : List Note) (prgs chrs : Nat) (report : Report) (bench : Bench) : Prop where
  healthy : Healthy board prg chr solder bench.session
  patterns : bench.console.patterns = chr
  found : Report.Found what wrong prgs chrs report bench.report

namespace Judged

variable {board : Board} {prg : Memory} {chr : Chr} {solder : Mirroring} {what : Check}
  {wrong : List Note} {prgs chrs : Nat} {report : Report} {bench : Bench} {current after : Shadow}
  {req : Request} {writes : List RegisterWrite}

theorem clean (h : Judged board prg chr solder what wrong prgs chrs report bench) :
    Clean board prg chr solder bench.report bench :=
  ⟨h.healthy, rfl, rfl, rfl⟩

/-- Any healthy board can be judged by the pattern memory that it has. -/
theorem of_clean (h : Clean board prg chr solder report bench) (what : Check) :
    Judged board prg bench.console.patterns solder what [] 0 0 bench.report bench :=
  ⟨h.healthy.of_sameKind h.healthy.patterns.symm, rfl, Report.found_nothing ..⟩

/-- If nothing was found wrong, only bank selections were counted. -/
theorem clean_of_start {start : Bench} {other : Chr}
    (hstart : Clean board prg chr solder report start)
    (hkind : chr.SameKind other)
    (h : Judged board prg other solder what [] prgs chrs start.report bench) :
    Clean board prg chr solder (report.counting prgs) bench where
  healthy := h.healthy.of_sameKind hkind
  failures := h.found.failures.trans hstart.failures
  prgBanks := by
    rw [h.found.prgBanks, hstart.prgBanks]
    rfl
  prgSize := h.found.prgSize.trans hstart.prgSize

/-- A request that the check needs goes through and finds nothing. -/
theorem ask (h : Judged board prg chr solder what wrong prgs chrs report bench)
    (hquiet : prg.Quiet board) (hshadow : bench.session.controller.shadow = some current)
    (hans : board.Answers current req after writes) (check : Check) (text : String) :
    Returns (bench.ask check text req) fun next =>
      Judged board prg chr solder what wrong prgs chrs report next ∧
        next.session.controller.shadow = some after := by
  apply (h.clean.ask hquiet hshadow hans check text).mono
  rintro next ⟨hnext, hafter, hconsole, hreport⟩
  refine ⟨⟨hnext.healthy, ?_, hreport ▸ h.found⟩, hafter⟩
  rw [hconsole]
  exact h.patterns

/-- Looking at pattern memory finds nothing yet. -/
theorem readPpu (h : Judged board prg chr solder what wrong prgs chrs report bench)
    (addr : UInt16) :
    Judged board prg chr solder what wrong prgs chrs report (bench.readPpu addr).2 :=
  ⟨(h.clean.readPpu addr).healthy, (bench.console.chr_readPpu addr).trans h.patterns, h.found⟩

/-- A loop finds what its passes find, in their order. -/
theorem foldlM {α : Type} (h : Judged board prg chr solder what wrong prgs chrs report bench)
    (step : Bench → α → Progress) (items : List α) (notes : α → List Note) (prgsOf chrsOf : α → Nat)
    (hstep : ∀ item ∈ items, ∀ {wrong prgs chrs bench},
      Judged board prg chr solder what wrong prgs chrs report bench →
        Returns (step bench item) (Judged board prg chr solder what (wrong ++ notes item)
          (prgs + prgsOf item) (chrs + chrsOf item) report)) :
    Returns (items.foldlM step bench)
      (Judged board prg chr solder what (wrong ++ items.flatMap notes)
        (prgs + (items.map prgsOf).sum) (chrs + (items.map chrsOf).sum) report) := by
  refine Returns.foldlM (fun done => Judged board prg chr solder what (wrong ++ done.flatMap notes)
    (prgs + (done.map prgsOf).sum) (chrs + (done.map chrsOf).sum) report) ?_ ?_
  · intro done item rest hitems now hnow
    have hmem : item ∈ items := hitems ▸ List.mem_append_right done (List.mem_cons_self ..)
    have hnext := hstep item hmem hnow
    simpa only [List.flatMap_append, List.flatMap_singleton, List.map_append, List.map_singleton,
      List.sum_append, List.sum_singleton, List.append_assoc, Nat.add_assoc] using hnext
  · simpa using h

end Judged

end Bench

end NesCartridge
