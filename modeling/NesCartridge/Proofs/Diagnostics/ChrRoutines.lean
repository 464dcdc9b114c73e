/-
  NesCartridge.Proofs.Diagnostics.ChrRoutines

  The two routines that look at pattern memory, on a healthy board. `chrBanks` notes the banks of a
  ROM that do not start with their number (`Bench.Judged.chrBanks_routine`), and in RAM finds the
  numbers that it has just stored, although banks that repeat are stored more than once
  (`Bench.Clean.chrBanks_routine`); `chrLatches` compares behind each state of a tile latch the bank
  that it put there (`Bench.Judged.chrLatches_routine`), and finds it in a test image
  (`Bench.Clean.chrLatches_routine`).
-/
import NesCartridge.Proofs.Diagnostics.Verdict

namespace NesCartridge

/-- The banks of a window start with the tags expected of them, in these cells. -/
def Window.TaggedIn (window : Window) (cells : Memory) (banks : List Nat) : Prop :=
  ∀ bank ∈ banks, cells[bank * window.size % cells.size]? =
    some (pageTag bank window chrPageSize cells.size)

/-- Storing the tag of one more bank keeps the tags of the others: a bank that shares its place has
the same tag. -/
theorem Window.TaggedIn.store {window : Window} {cells : Memory} {done : List Nat}
    (h : window.TaggedIn cells done) (hpos : 0 < cells.size) (hdvd : chrPageSize ∣ cells.size)
    (bank : Nat) :
    window.TaggedIn (cells.setIfInBounds (bank * window.size % cells.size)
      (pageTag bank window chrPageSize cells.size)) (done ++ [bank]) := by
  intro other hother
  have hlt : ∀ bank, bank * window.size % cells.size < cells.size := fun _ => Nat.mod_lt _ hpos
  -- The tag is a function of the place, which is why an overwritten tag stays right.
  have htag := fun bank => pageTag_eq_page (by decide) hpos hdvd bank window
  rw [Array.size_setIfInBounds, Array.getElem?_setIfInBounds]
  by_cases hsame : bank * window.size % cells.size = other * window.size % cells.size
  · rw [if_pos hsame, if_pos (hsame ▸ hlt bank), htag bank, htag other, hsame]
  · rw [if_neg hsame]
    rcases List.mem_append.mp hother with hbefore | hlast
    · exact h other hbefore
    · rw [List.mem_singleton.mp hlast] at hsame
      exact absurd rfl hsame

/-- A CHR window counts its banks in whole pages. -/
theorem Board.chrWindow_pages {board : Board} {number : Nat} {window : Window}
    (hwindow : board.descriptor.chrWindows[number]? = some window) :
    0 < window.size ∧ chrPageSize ∣ window.size := by
  have hregistry : ∀ window ∈ board.descriptor.chrWindows,
      0 < window.size ∧ chrPageSize ∣ window.size := by
    cases board <;> decide
  exact hregistry window (List.mem_of_getElem? hwindow)

/-- Banks with their tags in place are not wrong. -/
theorem Window.TaggedIn.wrongBanks {window : Window} {cells : Memory}
    (h : window.TaggedIn cells window.banks) (hpos : 0 < cells.size)
    (hdvd : chrPageSize ∣ cells.size) (number : Nat) :
    cells.wrongBanks chrPageSize .chrBank [(window, number)] = [] := by
  refine Memory.wrongBanks_eq_nil fun entry hentry bank hbank => ?_
  rw [List.mem_singleton.mp hentry] at hbank ⊢
  exact Memory.wrongTag?_eq_none (by decide) hpos hdvd (h bank hbank) _

/-- The windows that the bank check goes through, with their numbers. -/
def Board.plainChrWindows (board : Board) : List (Window × Nat) :=
  board.descriptor.chrWindows.zipIdx.filter (·.1.latch.isNone)

theorem Board.of_mem_plainChrWindows {board : Board} {entry : Window × Nat}
    (h : entry ∈ board.plainChrWindows) :
    board.descriptor.chrWindows[entry.2]? = some entry.1 ∧ entry.1.latch = none := by
  obtain ⟨hzip, hnone⟩ := List.mem_filter.mp h
  exact ⟨List.mem_zipIdx_iff_getElem?.mp hzip, Option.isNone_iff_eq_none.mp hnone⟩

/-- In the ROM of a test image no bank is wrong. -/
theorem TestImage.wrongChrBanks {board : Board} {prg : Memory} {chr : Chr}
    (h : TestImage board prg chr) (hrom : chr.writable = false) :
    chr.cells.wrongBanks chrPageSize .chrBank board.plainChrWindows = [] := by
  refine Memory.wrongBanks_eq_nil fun entry hentry bank _ => ?_
  have hwindow := (Board.of_mem_plainChrWindows hentry).1
  exact (h.chrTags hrom).wrongTag? (by decide) h.chrWhole.pos
    (Nat.dvd_trans (by decide) h.chrWhole.dvd) (Board.chrWindow_pages hwindow).2 bank _

namespace Bench

variable {board : Board} {prg : Memory} {chr : Chr} {solder : Mirroring} {report : Report}
  {bench : Bench} {shadow : Shadow} {number bank : Nat} {window : Window}

namespace Clean

theorem whole (h : Clean board prg chr solder report bench) (hwhole : chr.Whole) :
    bench.console.patterns.Whole := by
  have hsize : bench.console.patterns.cells.size = chr.cells.size := h.healthy.patterns.size
  exact ⟨hsize ▸ hwhole.pos, hsize ▸ hwhole.dvd⟩

/-- The base of a window without a latch, in terms of the cell behind it. -/
theorem access_window (h : Clean board prg chr solder report bench) (hwhole : chr.Whole)
    (hshadow : bench.session.controller.shadow = some shadow)
    (hwindow : board.descriptor.chrWindows[number]? = some window) (hlatch : window.latch = none) :
    let cells := bench.console.patterns.cells
    let cell := shadow.chrBank number * window.size % cells.size
    cells[cell]? = some (bench.console.readPpu window.base).1 ∧
      ∀ value, (bench.console.writePpu window.base value).patterns =
        if bench.console.patterns.writable then
          { bench.console.patterns with cells := cells.setIfInBounds cell value }
        else bench.console.patterns := by
  intro cells cell
  obtain ⟨hpos, -⟩ := Board.chrWindow_pages hwindow
  obtain ⟨hsize, hdvd⟩ := h.whole hwhole
  have hbase : window.base + UInt16.ofNat 0 = window.base := UInt16.add_zero _
  have hread := h.healthy.inStep.readPpu_window hshadow hwindow hlatch hpos hsize hdvd
  have hwrite := h.healthy.inStep.writePpu_window hshadow hwindow hlatch hpos hsize hdvd
  rw [hbase, Nat.add_zero] at hread hwrite
  exact ⟨hread, hwrite⟩

/-- The bank that was just selected is the one behind the window. -/
theorem chrBank_setChr (h : Clean board prg chr solder report bench)
    (hshadow : bench.session.controller.shadow = some shadow)
    (hwindow : board.descriptor.chrWindows[number]? = some window) (i : Nat) :
    (shadow.setChr number bank).chrBank i = if i = number then bank else shadow.chrBank i :=
  (h.healthy.inStep.shadow shadow hshadow).1.chrBank_setChr hwindow bank i

end Clean

/-! ## Comparing numbers -/

namespace Judged

variable {what : Check} {wrong : List Note} {prgs chrs : Nat}

/-- Select a bank, compare its number and count it. -/
theorem chrBank (h : Judged board prg chr solder .chrBanks wrong prgs chrs report bench)
    (hquiet : prg.Quiet board) (hwhole : chr.Whole)
    (hwindow : board.descriptor.chrWindows[number]? = some window) (hlatch : window.latch = none)
    (hbank : bank ≤ window.maxBank) :
    Returns (Bench.chrBank window number bench bank)
      (Judged board prg chr solder .chrBanks
        (wrong ++ (chr.cells.wrongTag? chrPageSize window bank (.chrBank number bank)).toList) prgs
        (chrs + 1) report) := by
  obtain ⟨current, hshadow⟩ := h.healthy.ready
  unfold Bench.chrBank
  apply (h.ask hquiet hshadow (.selectChr hwindow hbank) .chrBanks "CHR bank").bind
  rintro next ⟨hnext, hafter⟩
  have hread := (hnext.clean.access_window hwhole hafter hwindow hlatch).1
  rw [h.clean.chrBank_setChr hshadow hwindow, if_pos rfl, hnext.patterns] at hread
  have hlooked := hnext.readPpu window.base
  have hfound := hlooked.found.compare chrPageSize (by decide) hwhole.pos
    (Nat.dvd_trans (by decide) hwhole.dvd) hread (.chrBank number bank)
  rw [hnext.clean.chrTotal_eq]
  exact Returns.pure ⟨hlooked.healthy, hlooked.patterns, hfound.chrSelection⟩

/-- The pass that compares all banks of one window, and goes back to bank 0. -/
theorem chrPass (h : Judged board prg chr solder .chrBanks wrong prgs chrs report bench)
    (hquiet : prg.Quiet board) (hwhole : chr.Whole)
    (hwindow : board.descriptor.chrWindows[number]? = some window)
    (hlatch : window.latch = none) :
    Returns (do
        let bench ← window.banks.foldlM (Bench.chrBank window number) bench
        return finish (bench.ask .chrBanks "CHR bank" (.selectChr number 0)))
      (Judged board prg chr solder .chrBanks
        (wrong ++ chr.cells.wrongBanks chrPageSize .chrBank [(window, number)]) prgs
        (chrs + (window.maxBank + 1)) report) := by
  have hbanks := h.foldlM (Bench.chrBank window number) window.banks
    (fun bank => (chr.cells.wrongTag? chrPageSize window bank (.chrBank number bank)).toList)
    (fun _ => 0) (fun _ => 1)
    fun bank hmem _ _ _ _ hnow =>
      hnow.chrBank hquiet hwhole hwindow hlatch (Window.le_maxBank_of_mem hmem)
  apply hbanks.bind
  intro last hlast
  apply Returns.pure
  rw [← Memory.wrongBanks_singleton, List.sum_map_zero, List.map_const', List.sum_replicate_nat,
    Window.length_banks, Nat.mul_one] at hlast
  obtain ⟨current, hshadow⟩ := hlast.healthy.ready
  exact ((hlast.ask hquiet hshadow (.selectChr hwindow (Nat.zero_le _)) .chrBanks "CHR bank").mono
    fun _ hnext => hnext.1).finish

/-- A window of CHR ROM is only compared. -/
theorem chrWindow (h : Judged board prg chr solder .chrBanks wrong prgs chrs report bench)
    (hquiet : prg.Quiet board) (hwhole : chr.Whole) (hrom : chr.writable = false)
    (hwindow : board.descriptor.chrWindows[number]? = some window)
    (hlatch : window.latch = none) :
    Returns (bench.chrWindow (window, number))
      (Judged board prg chr solder .chrBanks
        (wrong ++ chr.cells.wrongBanks chrPageSize .chrBank [(window, number)]) prgs
        (chrs + (window.maxBank + 1)) report) := by
  have hstated : bench.header.chrRomSize ≠ 0 := by
    rw [h.clean.chrRomSize_eq, hrom]
    exact Nat.ne_of_gt hwhole.pos
  unfold Bench.chrWindow
  simp only [if_neg hstated]
  exact h.chrPass hquiet hwhole hwindow hlatch

/-- On CHR ROM every bank of every window without a latch is compared and counted, and each wrong
one noted. -/
theorem chrBanks_routine (h : Judged board prg chr solder .chrBanks wrong prgs chrs report bench)
    (hquiet : prg.Quiet board) (hwhole : chr.Whole) (hrom : chr.writable = false) :
    Judged board prg chr solder .chrBanks
      (wrong ++ chr.cells.wrongBanks chrPageSize .chrBank board.plainChrWindows) prgs
      (chrs + (board.plainChrWindows.map (·.1.maxBank + 1)).sum) report bench.chrBanks := by
  have hwindows := h.foldlM Bench.chrWindow board.plainChrWindows
    (fun entry => chr.cells.wrongBanks chrPageSize .chrBank [entry]) (fun _ => 0)
    (fun entry => entry.1.maxBank + 1)
    fun entry hmem _ _ _ _ hnow =>
      have hentry := Board.of_mem_plainChrWindows hmem
      hnow.chrWindow hquiet hwhole hrom hentry.1 hentry.2
  unfold Bench.chrBanks
  rw [h.clean.desc_eq]
  rw [Memory.flatMap_wrongBanks, List.sum_map_zero] at hwindows
  exact hwindows.finish

end Judged

/-! ## Storing numbers first -/

namespace Clean

/-- Select a bank of RAM and store its number. -/
theorem tagChrBank (h : Clean board prg chr solder report bench) (hquiet : prg.Quiet board)
    (hwhole : chr.Whole) (hram : chr.writable = true)
    (hwindow : board.descriptor.chrWindows[number]? = some window)
    (hlatch : window.latch = none) (hbank : bank ≤ window.maxBank) {done : List Nat}
    (htagged : window.TaggedIn bench.console.patterns.cells done) :
    Returns (Bench.tagChrBank window number bench bank) fun next =>
      Clean board prg chr solder report next ∧
        window.TaggedIn next.console.patterns.cells (done ++ [bank]) := by
  obtain ⟨current, hshadow⟩ := h.healthy.ready
  unfold Bench.tagChrBank
  apply (h.ask hquiet hshadow (.selectChr hwindow hbank) .chrBanks "CHR bank").bind
  rintro next ⟨hnext, hafter, hconsole, -⟩
  have hpatterns : next.console.patterns = bench.console.patterns := by
    rw [hconsole]
    rfl
  have hsize : next.console.patterns.cells.size = chr.cells.size := hnext.healthy.patterns.size
  refine Returns.pure ⟨hnext.writePpu .., ?_⟩
  obtain ⟨hpos, hdvd⟩ := hnext.whole hwhole
  have hwrite := (hnext.access_window hwhole hafter hwindow hlatch).2
    (pageTag bank window chrPageSize next.chrTotal)
  have hwritable : next.console.patterns.writable = true :=
    hnext.healthy.patterns.writable.trans hram
  rw [if_pos hwritable, h.chrBank_setChr hshadow hwindow, if_pos rfl, hnext.chrTotal_eq, ← hsize]
    at hwrite
  rw [← hpatterns] at htagged
  have hstored := htagged.store hpos (Nat.dvd_trans (by decide) hdvd) bank
  rw [hnext.chrTotal_eq, ← hsize]
  exact (congrArg Chr.cells hwrite).symm ▸ hstored

/-- The first pass over a window of RAM stores every number. -/
theorem tagChrBanks (h : Clean board prg chr solder report bench) (hquiet : prg.Quiet board)
    (hwhole : chr.Whole) (hram : chr.writable = true)
    (hwindow : board.descriptor.chrWindows[number]? = some window) (hlatch : window.latch = none) :
    Returns (window.banks.foldlM (Bench.tagChrBank window number) bench) fun next =>
      Clean board prg chr solder report next ∧
        window.TaggedIn next.console.patterns.cells window.banks := by
  refine Returns.foldlM (fun done next => Clean board prg chr solder report next ∧
    window.TaggedIn next.console.patterns.cells done) ?_ ⟨h, fun bank hbank => nomatch hbank⟩
  intro done bank rest hitems next hnext
  have hbank : bank ∈ window.banks := hitems ▸ List.mem_append_right done (List.mem_cons_self ..)
  exact hnext.1.tagChrBank hquiet hwhole hram hwindow hlatch (Window.le_maxBank_of_mem hbank)
    hnext.2

/-- In RAM the second pass finds what the first has stored. -/
theorem chrWindow (h : Clean board prg chr solder report bench) (hquiet : prg.Quiet board)
    (hwhole : chr.Whole) (hram : chr.writable = true)
    (hwindow : board.descriptor.chrWindows[number]? = some window) (hlatch : window.latch = none) :
    Returns (bench.chrWindow (window, number)) (Clean board prg chr solder report) := by
  have hstated : bench.header.chrRomSize = 0 := by
    rw [h.chrRomSize_eq, hram]
    rfl
  unfold Bench.chrWindow
  simp only [if_pos hstated]
  apply (h.tagChrBanks hquiet hwhole hram hwindow hlatch).bind
  rintro tagged ⟨htagged, hnumbers⟩
  have hstored := htagged.whole hwhole
  apply ((Judged.of_clean htagged .chrBanks).chrPass hquiet hstored hwindow hlatch).mono
  intro last hlast
  rw [hnumbers.wrongBanks hstored.pos (Nat.dvd_trans (by decide) hstored.dvd)] at hlast
  exact hlast.clean_of_start htagged htagged.healthy.patterns

/-- Every bank of every window without a latch is found. -/
theorem chrBanks_routine (h : Clean board prg chr solder report bench)
    (himage : TestImage board prg chr) :
    Clean board prg chr solder report bench.chrBanks := by
  cases hkind : chr.writable with
  | false =>
    have hsame : bench.console.patterns = chr := h.healthy.patterns.rom hkind
    have hjudged := Judged.of_clean h .chrBanks
    rw [hsame] at hjudged
    have hdone := hjudged.chrBanks_routine himage.quiet himage.chrWhole hkind
    rw [himage.wrongChrBanks hkind] at hdone
    exact hdone.clean_of_start h (Chr.sameKind_refl chr)
  | true =>
    unfold Bench.chrBanks
    rw [h.desc_eq, ← Board.plainChrWindows]
    refine Returns.finish (Returns.foldlM (fun _ => Clean board prg chr solder report) ?_ h)
    rintro done ⟨window, number⟩ rest hitems now hnow
    have hmem : (window, number) ∈ board.plainChrWindows :=
      hitems ▸ List.mem_append_right done (List.mem_cons_self ..)
    obtain ⟨hwindow, hlatch⟩ := Board.of_mem_plainChrWindows hmem
    exact hnow.chrWindow himage.quiet himage.chrWhole hkind hwindow hlatch

end Clean

end Bench

/-! ## Tile latches -/

/-- The trigger addresses that the routine fetches set the latch of their half on both chips. -/
theorem Mmc2.latch_fetched_trigger (chip : Mmc2) {base : UInt16}
    (hbase : base = 0x0000 ∨ base = 0x1000) (latch : TileLatch) :
    ((chip.fetched (Bench.latchTrigger base latch)).half base).latch = latch := by
  obtain ⟨isMmc4, prg, low, high, mirroring⟩ := chip
  rcases hbase with rfl | rfl
  · cases isMmc4 <;> cases latch <;> rfl
  · cases isMmc4 <;> cases latch <;> rfl

/-- The windows with a latch are those of MMC2 and MMC4: each shows in one state of the latch of the
half of pattern memory that it fills. -/
theorem Board.latchedWindow {board : Board} {number : Nat} {window : Window} {latch : TileLatch}
    (hwindow : board.descriptor.chrWindows[number]? = some window)
    (hlatch : window.latch = some latch) :
    board.descriptor.hasTileLatches = true ∧ (window.base = 0x0000 ∨ window.base = 0x1000) ∧
      window.size = 0x1000 ∧
      Mmc2.shownWindow (window.base.toNat / 0x1000 % 2) latch = number := by
  have hlatches : board.descriptor.hasTileLatches = true := by
    cases hnone : board.descriptor.hasTileLatches with
    | true => rfl
    | false =>
      rw [Board.latch_eq_none hnone hwindow] at hlatch
      cases hlatch
  have hregistry : ∀ entry ∈ tileLatchWindows.zipIdx, ∀ latch, entry.1.latch = some latch →
      (entry.1.base = 0x0000 ∨ entry.1.base = 0x1000) ∧ entry.1.size = 0x1000 ∧
        Mmc2.shownWindow (entry.1.base.toNat / 0x1000 % 2) latch = entry.2 := by
    intro entry hentry latch
    revert entry
    cases latch <;> decide
  rw [Mmc2.chrWindows_eq hlatches] at hwindow
  exact ⟨hlatches,
    hregistry (window, number) (List.mem_zipIdx_iff_getElem?.mpr hwindow) latch hlatch⟩

/-- After its trigger a window with a latch shows the bank in the shadow. -/
theorem Chip.Wired.chrRef_triggered {board : Board} {solder : Mirroring} {chip : Chip}
    {shadow : Shadow} (h : chip.Wired board solder) (hholds : chip.Holds shadow)
    (hfits : shadow.Fits board) {number : Nat} {window : Window} {latch : TileLatch}
    (hwindow : board.descriptor.chrWindows[number]? = some window)
    (hlatch : window.latch = some latch) :
    (chip.fetched (Bench.latchTrigger window.base latch)).chrRef window.base =
      ⟨shadow.chrBank number, 0x1000⟩ := by
  obtain ⟨hlatches, hbase, -, hshown⟩ := Board.latchedWindow hwindow hlatch
  have hchip : ∃ c, chip = .mmc2 c := by
    cases h with
    | mmc2 | mmc4 => exact ⟨_, rfl⟩
    | nrom | mmc1 | mmc3 | action53 | fme7 => cases hlatches
    | discrete hlayout => rcases Mmc2.eq_of_hasTileLatches hlatches with rfl | rfl <;> cases hlayout
  obtain ⟨c, rfl⟩ := hchip
  have hfetched : (c.fetched (Bench.latchTrigger window.base latch)).Holds shadow :=
    Mmc2.Holds.fetched hholds _
  have hbank := hfetched.chrBank_eq hfits window.base
  rw [c.latch_fetched_trigger hbase, hshown] at hbank
  exact congrArg (BankRef.mk · 0x1000) hbank

/-- A triggered window reads the first byte of the bank in the shadow. -/
theorem InStep.readPpu_triggered {board : Board} {prg : Memory} {solder : Mirroring}
    {session : Session Console} {shadow : Shadow} (h : InStep board prg solder session)
    (hshadow : session.controller.shadow = some shadow) {number : Nat} {window : Window}
    {latch : TileLatch} (hwindow : board.descriptor.chrWindows[number]? = some window)
    (hlatch : window.latch = some latch) (hpos : 0 < session.bus.patterns.cells.size)
    (hdvd : 0x2000 ∣ session.bus.patterns.cells.size) :
    let triggered := (session.bus.readPpu (Bench.latchTrigger window.base latch)).2
    session.bus.patterns.cells[shadow.chrBank number * window.size %
        session.bus.patterns.cells.size]? = some (triggered.readPpu window.base).1 := by
  intro triggered
  obtain ⟨hfits, hholds⟩ := h.shadow shadow hshadow
  obtain ⟨-, hbase, hsize, -⟩ := Board.latchedWindow hwindow hlatch
  have htrigger : (Bench.latchTrigger window.base latch).toNat < 0x2000 := by
    rcases hbase with hbase | hbase <;> rw [hbase] <;> cases latch <;> decide
  have hlow : window.base.toNat < 0x2000 ∧ window.base.toNat % 0x1000 = 0 := by
    rcases hbase with hbase | hbase <;> rw [hbase] <;> decide
  have hself : ∀ {addr : UInt16}, addr.toNat < 0x2000 →
      addr.toNat % 0x4000 < 0x2000 ∧ Console.ppuAddr addr = addr :=
    fun haddr => ⟨by omega, Console.ppuAddr_of_lt (by omega)⟩
  have htriggered : triggered =
      session.bus.fetched (Bench.latchTrigger window.base latch) := by
    show (session.bus.readPpu (Bench.latchTrigger window.base latch)).2 = _
    rw [Console.readPpu_of_lt _ (hself htrigger).1, (hself htrigger).2]
  have href : triggered.cart.hardware.chip.chrRef window.base =
      ⟨shadow.chrBank number, 0x1000⟩ := by
    rw [htriggered]
    exact h.wired.chrRef_triggered hholds hfits hwindow hlatch
  have hchr : triggered.cart.hardware.chr = session.bus.patterns := by
    rw [htriggered]
    rfl
  have hcell := bankedIndex_eq_mod hpos (show 0 < 0x1000 by omega)
    (Or.inl (Nat.dvd_trans (by decide) hdvd)) (shadow.chrBank number) window.base.toNat
  rw [hlow.2, Nat.add_zero] at hcell
  rw [Console.readPpu_of_lt _ (hself hlow.1).1, (hself hlow.1).2, hsize, ← hcell]
  show _ = some (triggered.cart.hardware.readChr window.base)
  rw [Hardware.readChr, href, hchr]
  exact Memory.getElem?_bankedIndex hpos ..

/-- Some windows hold the banks that the latch check puts there. -/
def Shadow.HasLatchBanks (shadow : Shadow) (entries : List (Window × Nat)) : Prop :=
  ∀ entry ∈ entries, shadow.chrBank entry.2 = Bench.latchBank entry.1 entry.2

/-- The note on a window with a latch whose bank in the check does not start with the number of its
page. -/
def Memory.wrongLatch? (mem : Memory) (entry : Window × Nat) : Option Note :=
  entry.1.latch.bind fun latch =>
    mem.wrongTag? chrPageSize entry.1 (Bench.latchBank entry.1 entry.2)
      (.chrLatch latch entry.1.base)

/-- In a memory whose pages carry their numbers no window with a latch is wrong. -/
theorem Memory.HasPageTags.wrongLatch? {mem : Memory} (h : mem.HasPageTags chrPageSize)
    (hpos : 0 < mem.size) (hdvd : 0x2000 ∣ mem.size) {board : Board} {entry : Window × Nat}
    (hentry : entry ∈ board.descriptor.chrWindows.zipIdx) : mem.wrongLatch? entry = none := by
  have hpage := (Board.chrWindow_pages (List.mem_zipIdx_iff_getElem?.mp hentry)).2
  unfold Memory.wrongLatch?
  cases entry.1.latch with
  | none => rfl
  | some latch => exact h.wrongTag? (by decide) hpos (Nat.dvd_trans (by decide) hdvd) hpage _ _

namespace Bench

variable {board : Board} {prg : Memory} {chr : Chr} {solder : Mirroring} {report : Report}
  {bench : Bench} {shadow : Shadow} {number : Nat} {window : Window}

namespace Judged

variable {what : Check} {wrong : List Note} {prgs chrs : Nat}

/-- A window with a latch is compared behind its trigger; nothing happens to the others. -/
theorem chrLatch (h : Judged board prg chr solder .chrLatches wrong prgs chrs report bench)
    (hwhole : chr.Whole) (hshadow : bench.session.controller.shadow = some shadow)
    (hwindow : board.descriptor.chrWindows[number]? = some window)
    (hbank : shadow.chrBank number = latchBank window number) :
    Judged board prg chr solder .chrLatches
        (wrong ++ (chr.cells.wrongLatch? (window, number)).toList) prgs
        (chrs + if window.latch.isSome then 1 else 0) report (bench.chrLatch (window, number)) ∧
      (bench.chrLatch (window, number)).session.controller = bench.session.controller := by
  unfold Bench.chrLatch Memory.wrongLatch?
  dsimp only
  cases hlatch : window.latch with
  | none =>
    rw [Option.bind_none, Option.toList_none, List.append_nil]
    exact ⟨h, rfl⟩
  | some latch =>
    have hwhole' := h.clean.whole hwhole
    let triggered := (bench.readPpu (latchTrigger window.base latch)).2
    have htriggered : Judged board prg chr solder .chrLatches wrong prgs chrs report triggered :=
      h.readPpu _
    have hread : bench.console.patterns.cells[shadow.chrBank number * window.size %
        bench.console.patterns.cells.size]? = some (triggered.readPpu window.base).1 :=
      h.healthy.inStep.readPpu_triggered hshadow hwindow hlatch hwhole'.pos hwhole'.dvd
    rw [hbank, h.patterns] at hread
    have hlooked := htriggered.readPpu window.base
    have hfound := hlooked.found.compare chrPageSize (by decide) hwhole.pos
      (Nat.dvd_trans (by decide) hwhole.dvd) hread (.chrLatch latch window.base)
    dsimp only
    rw [show (bench.readPpu (latchTrigger window.base latch)).2.chrTotal = chr.cells.size from
      htriggered.clean.chrTotal_eq]
    exact ⟨⟨hlooked.healthy, hlooked.patterns, hfound.chrSelection⟩, rfl⟩

/-- The windows in turn. Looking leaves the banks that the check has put there in force. -/
theorem foldl_chrLatch (h : Judged board prg chr solder .chrLatches wrong prgs chrs report bench)
    (hwhole : chr.Whole) (hshadow : bench.session.controller.shadow = some shadow)
    {entries : List (Window × Nat)}
    (hwindows : ∀ entry ∈ entries, board.descriptor.chrWindows[entry.2]? = some entry.1)
    (hbanks : shadow.HasLatchBanks entries) :
    Judged board prg chr solder .chrLatches
      (wrong ++ entries.filterMap chr.cells.wrongLatch?) prgs
      (chrs + entries.countP (·.1.latch.isSome)) report (entries.foldl Bench.chrLatch bench) := by
  induction entries generalizing bench wrong chrs with
  | nil =>
    rw [List.filterMap_nil, List.append_nil]
    exact h
  | cons entry rest ih =>
    obtain ⟨hnext, hcontroller⟩ := h.chrLatch hwhole hshadow (hwindows entry List.mem_cons_self)
      (hbanks entry List.mem_cons_self)
    have hrest := ih hnext (hcontroller ▸ hshadow)
      (fun other hother => hwindows other (List.mem_cons_of_mem entry hother))
      (fun other hother => hbanks other (List.mem_cons_of_mem entry hother))
    have hnotes : (chr.cells.wrongLatch? entry).toList ++ rest.filterMap chr.cells.wrongLatch? =
        (entry :: rest).filterMap chr.cells.wrongLatch? := by
      rw [List.filterMap_cons]
      cases chr.cells.wrongLatch? entry <;> rfl
    have hcount : (chrs + if entry.1.latch.isSome then 1 else 0) +
        rest.countP (·.1.latch.isSome) = chrs + (entry :: rest).countP (·.1.latch.isSome) := by
      rw [List.countP_cons]
      omega
    rw [List.append_assoc, hnotes, hcount] at hrest
    exact hrest

/-- Each window gets the bank of the check, whatever the others get. -/
theorem prepareLatches (h : Judged board prg chr solder what wrong prgs chrs report bench)
    (hquiet : prg.Quiet board) :
    Returns (board.descriptor.chrWindows.zipIdx.foldlM Bench.prepareLatch bench) fun next =>
      Judged board prg chr solder what wrong prgs chrs report next ∧
        ∃ shadow, next.session.controller.shadow = some shadow ∧
          shadow.HasLatchBanks board.descriptor.chrWindows.zipIdx := by
  obtain ⟨start, hstart⟩ := h.healthy.ready
  refine Returns.foldlM (fun done next =>
    Judged board prg chr solder what wrong prgs chrs report next ∧
      ∃ shadow, next.session.controller.shadow = some shadow ∧ shadow.HasLatchBanks done) ?_
    ⟨h, start, hstart, fun entry hentry => nomatch hentry⟩
  rintro done ⟨window, number⟩ rest hitems now ⟨hnow, shadow, hshadow, hdone⟩
  -- Windows have distinct numbers, so a later choice leaves the earlier ones in place.
  have hwindowOf : ∀ entry ∈ done ++ [(window, number)],
      board.descriptor.chrWindows[entry.2]? = some entry.1 := by
    intro entry hentry
    apply List.mem_zipIdx_iff_getElem?.mp
    rw [hitems, List.append_cons]
    exact List.mem_append_left rest hentry
  have hwindow : board.descriptor.chrWindows[number]? = some window :=
    hwindowOf (window, number) (List.mem_append_right done (List.mem_singleton_self _))
  have hfits : latchBank window number ≤ window.maxBank :=
    Nat.le_of_lt_succ (Nat.mod_lt _ (Nat.succ_pos _))
  apply (hnow.ask hquiet hshadow (.selectChr hwindow hfits) .chrLatches "CHR latch").mono
  rintro next ⟨hnext, hafter⟩
  refine ⟨hnext, _, hafter, fun entry hentry => ?_⟩
  rw [hnow.clean.chrBank_setChr hshadow hwindow]
  split
  next heq =>
    have hsame := hwindowOf entry hentry
    rw [heq, hwindow] at hsame
    rw [heq, Option.some.inj hsame]
  next hne =>
    rcases List.mem_append.mp hentry with hbefore | hlast
    · exact hdone entry hbefore
    · exact absurd (congrArg Prod.snd (List.mem_singleton.mp hlast)) hne

/-- Every window with a latch is compared and counted, and each wrong one noted. -/
theorem chrLatches_routine
    (h : Judged board prg chr solder .chrLatches wrong prgs chrs report bench)
    (hquiet : prg.Quiet board) (hwhole : chr.Whole) :
    Judged board prg chr solder .chrLatches
      (wrong ++ board.descriptor.chrWindows.zipIdx.filterMap chr.cells.wrongLatch?) prgs
      (chrs + board.descriptor.chrWindows.zipIdx.countP (·.1.latch.isSome)) report
      bench.chrLatches := by
  unfold Bench.chrLatches
  rw [h.clean.desc_eq]
  apply Returns.finish (Q := Judged board prg chr solder .chrLatches _ prgs _ report)
  apply (h.prepareLatches hquiet).bind
  rintro prepared ⟨hprepared, shadow, hshadow, hbanks⟩
  exact Returns.pure (hprepared.foldl_chrLatch hwhole hshadow
    (fun entry hentry => List.mem_zipIdx_iff_getElem?.mp hentry) hbanks)

end Judged

/-- Every window with a latch is found behind its trigger; boards without one have nothing to
show. -/
theorem Clean.chrLatches_routine (h : Clean board prg chr solder report bench)
    (himage : TestImage board prg chr) :
    Clean board prg chr solder report bench.chrLatches := by
  have hwhole := h.whole himage.chrWhole
  have hdone := (Judged.of_clean h .chrLatches).chrLatches_routine himage.quiet hwhole
  have hright : board.descriptor.chrWindows.zipIdx.filterMap
      bench.console.patterns.cells.wrongLatch? = [] := by
    refine List.filterMap_eq_nil_iff.mpr fun entry hentry => ?_
    cases hkind : chr.writable with
    | false =>
      have hsame : bench.console.patterns = chr := h.healthy.patterns.rom hkind
      rw [hsame]
      exact (himage.chrTags hkind).wrongLatch? himage.chrWhole.pos himage.chrWhole.dvd hentry
    | true =>
      -- A test image has RAM only where no window has a latch.
      have hlatch := Board.latch_eq_none (himage.noLatches hkind)
        (List.mem_zipIdx_iff_getElem?.mp hentry)
      rw [Memory.wrongLatch?, hlatch]
      rfl
  rw [hright] at hdone
  exact hdone.clean_of_start h h.healthy.patterns

end Bench

end NesCartridge
