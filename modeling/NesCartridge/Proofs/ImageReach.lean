/-
  NesCartridge.Proofs.ImageReach

  Which test images a board takes, and why those. The sizes accepted are the powers of two up to
  what the first window of each memory can show, and an image of such sizes can be looked at byte
  by byte through these windows, on any board that has been brought up (`images_are_reachable`).
-/
import NesCartridge.Proofs.BringUp
import NesCartridge.Proofs.Diagnostics.TestImage
import NesCartridge.Proofs.TileLatches

namespace NesCartridge

/-! ## Sizes -/

namespace ImageSpec

/-- A power of two between two bounds. -/
def IsSize (size least most : Nat) : Prop :=
  (∃ k, size = 2 ^ k) ∧ least ≤ size ∧ size ≤ most

theorem isSize_iff {size least most : Nat} :
    IsSize size least most ↔ sizeFits size least most = true := by
  rw [sizeFits_eq_true, IsSize, and_left_comm]

/-- An image is made or refused by its sizes alone, the PRG size first. -/
theorem synthesize_cases (spec : ImageSpec) (board : Board) :
    let prgOk := IsSize spec.prgSize 0x4000 (forBoard board).prgSize
    let chrOk := IsSize spec.chrSize 0x2000 (forBoard board).chrSize
    (prgOk → chrOk → spec.synthesize board =
        .ok (.ofParts board (taggedPrg spec.prgSize) spec.chr .vertical)) ∧
      (¬ prgOk → spec.synthesize board = .error (.prgSize spec.prgSize)) ∧
      (prgOk → ¬ chrOk → spec.synthesize board = .error (.chrSize spec.chrSize)) := by
  intro prgOk chrOk
  refine ⟨fun hprg hchr => ?_, fun hprg => ?_, fun hprg hchr => ?_⟩
  · have hvalid := validate_eq_ok.mpr ⟨isSize_iff.mp hprg, isSize_iff.mp hchr⟩
    rw [synthesize, hvalid]
    rfl
  · have hrefused := Bool.eq_false_iff.mpr (isSize_iff.not.mp hprg)
    simp only [synthesize, validate, hrefused]
    rfl
  · have hrefused := Bool.eq_false_iff.mpr (isSize_iff.not.mp hchr)
    simp only [synthesize, validate, isSize_iff.mp hprg, hrefused]
    rfl

/-- A number of KiB is taken as it is, unless the bytes are too many for a size. -/
theorem withPrgKib_eq (spec : ImageSpec) (kib : Nat) :
    spec.withPrgKib kib = if kib * 1024 < sizeLimit
      then .ok { spec with prgSize := kib * 1024 } else .error (.prgSize (sizeLimit - 1)) := by
  rw [withPrgKib, kibToBytes?]
  by_cases hlimit : kib * 1024 < sizeLimit
  · rw [if_pos hlimit, if_pos hlimit]
  · rw [if_neg hlimit, if_neg hlimit]

theorem withChrKib_eq (spec : ImageSpec) (kib : Nat) :
    spec.withChrKib kib = if kib * 1024 < sizeLimit
      then .ok { spec with chrSize := kib * 1024 } else .error (.chrSize (sizeLimit - 1)) := by
  rw [withChrKib, kibToBytes?]
  by_cases hlimit : kib * 1024 < sizeLimit
  · rw [if_pos hlimit, if_pos hlimit]
  · rw [if_neg hlimit, if_neg hlimit]

/-- The largest PRG memory is what the first window can show, where there is a window. -/
theorem prgSize_forBoard {board : Board} {window : Window}
    (h : board.descriptor.prgWindows.head? = some window) :
    (forBoard board).prgSize = (window.maxBank + 1) * window.size := by
  cases board with
  | nrom | cnRom => cases h
  | mmc1 | mmc2 | mmc3 | mmc4 | uxRom | axRom | colorDreams | action53 | unrom512 | bnRom | gnRom
  | fme7 =>
    cases h
    rfl

theorem chrSize_forBoard {board : Board} {window : Window}
    (h : board.descriptor.chrWindows.head? = some window) :
    (forBoard board).chrSize = (window.maxBank + 1) * window.size := by
  cases board with
  | nrom | uxRom | axRom | bnRom => cases h
  | mmc1 | mmc2 | mmc3 | mmc4 | cnRom | colorDreams | action53 | unrom512 | gnRom | fme7 =>
    cases h
    rfl

end ImageSpec

/-! ## Looking at every byte -/

namespace Session

/-- Each byte of the PRG memory shows in the first window once its bank is accepted there. Boards
without windows show the memory from `$8000`. -/
def ShowsPrg (session : Session Console) (board : Board) (prg : Memory) : Prop :=
  ∀ offset < prg.size,
    match board.descriptor.prgWindows.head? with
    | some window =>
      let selected := session.request (.selectPrg 0 (offset / window.size))
      let addr := window.base + UInt16.ofNat (offset % window.size)
      selected.1 = .ok () ∧ prg[offset]? = some (selected.2.bus.readCpu addr)
    | none => prg[offset]? = some (session.bus.readCpu (0x8000 + UInt16.ofNat offset))

/-- Each byte of pattern memory shows in the first window once its bank is accepted there, with tile
latches after any access that sets the latch of the low half to the first tile. Boards without
windows show the memory at its own addresses. -/
def ShowsPatterns (session : Session Console) (board : Board) : Prop :=
  let cells := session.bus.patterns.cells
  ∀ offset < cells.size,
    match board.descriptor.chrWindows.head? with
    | some window =>
      let selected := session.request (.selectChr 0 (offset / window.size))
      let addr := window.base + UInt16.ofNat (offset % window.size)
      selected.1 = .ok () ∧
        if board.descriptor.hasTileLatches then
          ∀ trigger : UInt16, board.trigger? 0 trigger.toNat = some .fd →
            cells[offset]? = some ((selected.2.bus.readPpu trigger).2.readPpu addr).1
        else cells[offset]? = some (selected.2.bus.readPpu addr).1
    | none => cells[offset]? = some (session.bus.readPpu (UInt16.ofNat offset)).1

end Session

/-- A byte within the reach of a window lies in one of its banks. -/
theorem Window.bank_of_offset {window : Window} {offset : Nat}
    (h : offset < (window.maxBank + 1) * window.size) :
    offset / window.size ≤ window.maxBank ∧ offset % window.size < window.size := by
  have hpos : 0 < window.size := Nat.pos_of_mul_pos_left (Nat.zero_lt_of_lt h)
  have hbank : offset / window.size < window.maxBank + 1 :=
    Nat.div_lt_of_lt_mul (by rwa [Nat.mul_comm])
  exact ⟨Nat.le_of_lt_succ hbank, Nat.mod_lt _ hpos⟩

/-- A board without CHR windows shows one bank of 8 KiB. -/
theorem Chip.Wired.chrRef_size {board : Board} {solder : Mirroring} {chip : Chip}
    (h : chip.Wired board solder) (hnone : board.descriptor.chrWindows.head? = none)
    (addr : UInt16) : (chip.chrRef addr).size = 0x2000 := by
  cases h with
  | nrom | discrete => rfl
  | mmc1 | mmc2 | mmc3 | mmc4 | action53 | fme7 => cases hnone

namespace InStep

variable {board : Board} {prg : Memory} {solder : Mirroring} {session : Session Console}
  {shadow after : Shadow}

/-- An answered request leaves controller and cartridge in step, with its shadow, and does not touch
pattern memory. -/
theorem answered (h : InStep board prg solder session) (hquiet : prg.Quiet board)
    (hshadow : session.controller.shadow = some shadow) {req : Request}
    {writes : List RegisterWrite} (hans : board.Answers shadow req after writes) :
    let done := session.request req
    done.1 = .ok () ∧ InStep board prg solder done.2 ∧
      done.2.controller.shadow = some after ∧ done.2.bus.patterns = session.bus.patterns := by
  intro done
  have hdone : done = _ := h.onBoard.request_of_answers hquiet hshadow hans
  refine ⟨by rw [hdone], h.request hquiet req, by rw [hdone], ?_⟩
  rw [hdone]
  rfl

/-- A bank of the first PRG window is accepted and shows. -/
theorem readCpu_bank (h : InStep board prg solder session) (hlength : PrgLength prg.size)
    (hquiet : prg.Quiet board) (hshadow : session.controller.shadow = some shadow)
    (hreach : prg.size ≤ (ImageSpec.forBoard board).prgSize) {window : Window}
    (hhead : board.descriptor.prgWindows.head? = some window) {offset : Nat}
    (hoffset : offset < prg.size) :
    let selected := session.request (.selectPrg 0 (offset / window.size))
    selected.1 = .ok () ∧ prg[offset]? =
      some (selected.2.bus.readCpu (window.base + UInt16.ofNat (offset % window.size))) := by
  intro selected
  have hwindow : board.descriptor.prgWindows[0]? = some window :=
    List.head?_eq_getElem?.symm.trans hhead
  rw [ImageSpec.prgSize_forBoard hhead] at hreach
  obtain ⟨hbank, hinside⟩ := Window.bank_of_offset (Nat.lt_of_lt_of_le hoffset hreach)
  obtain ⟨hok, hstep, hafter, -⟩ := h.answered hquiet hshadow (.selectPrg hwindow hbank)
  have hread := hstep.readCpu_window hlength hafter hwindow hinside
  rw [(h.shadow shadow hshadow).1.prgBank_setPrg hwindow, if_pos rfl, Nat.div_add_mod',
    Nat.mod_eq_of_lt hoffset] at hread
  exact ⟨hok, hread⟩

/-- Without PRG windows the memory stands at `$8000`. -/
theorem readCpu_unbanked (h : InStep board prg solder session) (hlength : PrgLength prg.size)
    (hshadow : session.controller.shadow = some shadow)
    (hreach : prg.size ≤ (ImageSpec.forBoard board).prgSize)
    (hnone : board.descriptor.prgWindows.head? = none) {offset : Nat}
    (hoffset : offset < prg.size) :
    prg[offset]? = some (session.bus.readCpu (0x8000 + UInt16.ofNat offset)) := by
  have hempty : board.descriptor.prgWindows = [] := List.head?_eq_none_iff.mp hnone
  have hsmall : prg.size ≤ 0x8000 := by
    rw [ImageSpec.forBoard] at hreach
    simp only [ImageSpec.reach, hnone] at hreach
    exact hreach
  have haddr : (0x8000 + UInt16.ofNat offset).toNat = 0x8000 + offset := by
    have hplace : (UInt16.ofNat offset).toNat = offset :=
      UInt16.toNat_ofNat_of_lt' (show offset < 0x10000 by omega)
    rw [UInt16.toNat_add, hplace]
    exact Nat.mod_eq_of_lt (show 0x8000 + offset < 0x10000 by omega)
  have habove : 0x8000 ≤ (0x8000 + UInt16.ofNat offset).toNat := by omega
  have hread := h.readCpu_fixed hlength hshadow habove fun window hmem => by
    rw [hempty] at hmem
    cases hmem
  have hcell : board.fixedCell prg.size (0x8000 + UInt16.ofNat offset) = offset := by
    have hlinear : (0x8000 + offset - 0x8000) % prg.size = offset := by
      rw [Nat.add_sub_cancel_left, Nat.mod_eq_of_lt hoffset]
    -- Two boards have no window.
    cases board with
    | nrom | cnRom => rw [Board.fixedCell, haddr, hlinear]
    | _ => cases hnone
  rwa [hcell] at hread

theorem showsPrg (h : InStep board prg solder session) (hlength : PrgLength prg.size)
    (hquiet : prg.Quiet board) (hshadow : session.controller.shadow = some shadow)
    (hreach : prg.size ≤ (ImageSpec.forBoard board).prgSize) : session.ShowsPrg board prg := by
  intro offset hoffset
  cases hhead : board.descriptor.prgWindows.head? with
  | some window => exact h.readCpu_bank hlength hquiet hshadow hreach hhead hoffset
  | none => exact h.readCpu_unbanked hlength hshadow hreach hhead hoffset

/-- After a trigger of its half the first window of MMC2 or MMC4 shows the bank in the shadow. -/
theorem readPpu_firstLatched (h : InStep board prg solder session)
    (hshadow : session.controller.shadow = some shadow)
    (hlatches : board.descriptor.hasTileLatches = true)
    (hpos : 0 < session.bus.patterns.cells.size)
    (hdvd : 0x2000 ∣ session.bus.patterns.cells.size) {trigger : UInt16}
    (htrigger : board.trigger? 0 trigger.toNat = some .fd) {place : Nat} (hplace : place < 0x1000) :
    session.bus.patterns.cells[(shadow.chrBank 0 * 0x1000 + place) %
        session.bus.patterns.cells.size]? =
      some ((session.bus.readPpu trigger).2.readPpu (UInt16.ofNat place)).1 := by
  have hlow : trigger.toNat < 0x1000 := by
    have hhalf := Board.half_of_trigger? htrigger
    omega
  have hself : Console.ppuAddr trigger = trigger := Console.ppuAddr_of_lt (by omega)
  have hnear : trigger.toNat % 0x4000 < 0x2000 := by omega
  -- The access that triggers is an access like any other to everything but the latch.
  have hnext := h.of_keeps (session.bus.keeps_readPpu trigger)
  have hpatterns : (session.bus.readPpu trigger).2.patterns = session.bus.patterns :=
    session.bus.chr_readPpu trigger
  have hchip : ∃ chip : Mmc2, session.bus.chip = .mmc2 chip ∧
      chip.isMmc4 = decide (board ≠ .mmc2) := by
    have hwired := h.wired
    generalize session.bus.chip = chip at hwired
    cases hwired with
    | mmc2 hkind | mmc4 hkind => exact ⟨_, rfl, hkind⟩
    | nrom | mmc1 | mmc3 | action53 | fme7 => cases hlatches
    | discrete hlayout => rcases Mmc2.eq_of_hasTileLatches hlatches with rfl | rfl <;> cases hlayout
  obtain ⟨chip, hchip, hkind⟩ := hchip
  have hfetched : (session.bus.readPpu trigger).2.chip = .mmc2 (chip.fetched trigger) := by
    rw [Console.chip_readPpu, if_pos hnear, hself, hchip]
    rfl
  have hlatch : (chip.fetched trigger).latch 0 = .fd := by
    rw [Mmc2.latch_fetched hkind (by omega) (by omega), htrigger]
    rfl
  have haddr : (UInt16.ofNat place).toNat = place :=
    UInt16.toNat_ofNat_of_lt' (show place < 0x10000 by omega)
  have hbelow : (UInt16.ofNat place).toNat % 0x4000 < 0x2000 := by omega
  have hread := hnext.readPpu_latched hshadow hfetched (by rwa [hpatterns]) (by rwa [hpatterns])
    hbelow
  have hmod : place % 0x4000 = place := Nat.mod_eq_of_lt (by omega)
  have hhalf : place / 0x1000 = 0 := Nat.div_eq_of_lt hplace
  dsimp only at hread
  rw [hpatterns, haddr, hmod, hhalf, hlatch, Nat.mod_eq_of_lt hplace] at hread
  exact hread

/-- A bank of the first CHR window is accepted and shows, once the tile latch lets it. -/
theorem readPpu_bank (h : InStep board prg solder session) (hquiet : prg.Quiet board)
    (hshadow : session.controller.shadow = some shadow) (hwhole : session.bus.patterns.Whole)
    (hreach : session.bus.patterns.cells.size ≤ (ImageSpec.forBoard board).chrSize)
    {window : Window} (hhead : board.descriptor.chrWindows.head? = some window) {offset : Nat}
    (hoffset : offset < session.bus.patterns.cells.size) :
    let cells := session.bus.patterns.cells
    let selected := session.request (.selectChr 0 (offset / window.size))
    let addr := window.base + UInt16.ofNat (offset % window.size)
    selected.1 = .ok () ∧
      if board.descriptor.hasTileLatches then
        ∀ trigger : UInt16, board.trigger? 0 trigger.toNat = some .fd →
          cells[offset]? = some ((selected.2.bus.readPpu trigger).2.readPpu addr).1
      else cells[offset]? = some (selected.2.bus.readPpu addr).1 := by
  intro cells selected addr
  obtain ⟨hpos, hdvd⟩ := hwhole
  have hwindow : board.descriptor.chrWindows[0]? = some window :=
    List.head?_eq_getElem?.symm.trans hhead
  rw [ImageSpec.chrSize_forBoard hhead] at hreach
  obtain ⟨hbank, hinside⟩ := Window.bank_of_offset (Nat.lt_of_lt_of_le hoffset hreach)
  obtain ⟨hok, hstep, hafter, hpatterns⟩ := h.answered hquiet hshadow (.selectChr hwindow hbank)
  rw [← hpatterns] at hpos hdvd
  have hselected := (h.shadow shadow hshadow).1.chrBank_setChr hwindow (offset / window.size) 0
  rw [if_pos rfl] at hselected
  have hcell :
      (offset / window.size * window.size + offset % window.size) % cells.size = offset := by
    rw [Nat.div_add_mod', Nat.mod_eq_of_lt hoffset]
  refine ⟨hok, ?_⟩
  cases hlatches : board.descriptor.hasTileLatches with
  | true =>
    rw [if_pos rfl]
    intro trigger htrigger
    rw [Mmc2.chrWindows_eq hlatches] at hhead
    cases hhead
    have hread := hstep.readPpu_firstLatched hafter hlatches hpos hdvd htrigger hinside
    rw [hpatterns, hselected, hcell] at hread
    have haddr : addr = UInt16.ofNat (offset % 0x1000) := UInt16.zero_add _
    rwa [haddr]
  | false =>
    rw [if_neg (by decide)]
    have hread := hstep.readPpu_window hafter hwindow (Board.latch_eq_none hlatches hwindow)
      hinside hpos hdvd
    rwa [hpatterns, hselected, hcell] at hread

/-- Without CHR windows the memory stands at its own addresses. -/
theorem readPpu_unbanked (h : InStep board prg solder session)
    (hwhole : session.bus.patterns.Whole)
    (hreach : session.bus.patterns.cells.size ≤ (ImageSpec.forBoard board).chrSize)
    (hnone : board.descriptor.chrWindows.head? = none) {offset : Nat}
    (hoffset : offset < session.bus.patterns.cells.size) :
    session.bus.patterns.cells[offset]? =
      some (session.bus.readPpu (UInt16.ofNat offset)).1 := by
  obtain ⟨hpos, hdvd⟩ := hwhole
  have hsize : session.bus.patterns.cells.size = 0x2000 := by
    rw [ImageSpec.forBoard] at hreach
    simp only [ImageSpec.reach, hnone] at hreach
    exact Nat.le_antisymm hreach (Nat.le_of_dvd hpos hdvd)
  have haddr : (UInt16.ofNat offset).toNat = offset :=
    UInt16.toNat_ofNat_of_lt' (show offset < 0x10000 by omega)
  have hself : Console.ppuAddr (UInt16.ofNat offset) = UInt16.ofNat offset :=
    Console.ppuAddr_of_lt (by omega)
  have href := h.wired.chrRef_size hnone (UInt16.ofNat offset)
  have hread := Memory.getElem?_bankedIndex hpos
    (session.bus.chip.chrRef (UInt16.ofNat offset)).bank
    (session.bus.chip.chrRef (UInt16.ofNat offset)).size offset
  have hcell : bankedIndex session.bus.patterns.cells.size
      (session.bus.chip.chrRef (UInt16.ofNat offset)).bank
      (session.bus.chip.chrRef (UInt16.ofNat offset)).size offset = offset := by
    rw [href, hsize, bankedIndex_of_dvd_length (by decide) (Nat.dvd_refl _), Nat.mul_add_mod',
      Nat.mod_mod, Nat.mod_eq_of_lt (by omega)]
  rw [hcell] at hread
  rw [Console.readPpu_of_lt _ (by omega), hself, Hardware.readChr, Chr.read, haddr]
  exact hread

theorem showsPatterns (h : InStep board prg solder session) (hquiet : prg.Quiet board)
    (hshadow : session.controller.shadow = some shadow) (hwhole : session.bus.patterns.Whole)
    (hreach : session.bus.patterns.cells.size ≤ (ImageSpec.forBoard board).chrSize) :
    session.ShowsPatterns board := by
  intro offset hoffset
  cases hhead : board.descriptor.chrWindows.head? with
  | some window => exact h.readPpu_bank hquiet hshadow hwhole hreach hhead hoffset
  | none => exact h.readPpu_unbanked hwhole hreach hhead hoffset

end InStep

/-- On every board an image is made exactly if its PRG size is a power of two from 16 KiB and its
CHR size one from 8 KiB, and neither is above what the registers can address; otherwise the first
size at fault is named, PRG before CHR. Sizes given in KiB are refused from 2⁶⁴ bytes on. Whatever
was done to a cartridge with such an image before it was brought up, and whatever was done after
that but for raw register writes, every byte of either memory can be shown. -/
theorem images_are_reachable (board : Board) (spec : ImageSpec) :
    let limit := ImageSpec.forBoard board
    let prgOk := ImageSpec.IsSize spec.prgSize 0x4000 limit.prgSize
    let chrOk := ImageSpec.IsSize spec.chrSize 0x2000 limit.chrSize
    ((∃ cart, spec.synthesize board = .ok cart) ↔ prgOk ∧ chrOk) ∧
      (¬ prgOk → spec.synthesize board = .error (.prgSize spec.prgSize)) ∧
      (prgOk → ¬ chrOk → spec.synthesize board = .error (.chrSize spec.chrSize)) ∧
      (∀ kib, spec.withPrgKib kib = if kib * 1024 < sizeLimit
        then .ok { spec with prgSize := kib * 1024 } else .error (.prgSize (sizeLimit - 1))) ∧
      (∀ kib, spec.withChrKib kib = if kib * 1024 < sizeLimit
        then .ok { spec with chrSize := kib * 1024 } else .error (.chrSize (sizeLimit - 1))) ∧
      ∀ cart, spec.synthesize board = .ok cart → ∀ before script : Script Action,
        script.Forall Action.SparesRegisters →
          let start := (before.run Action.perform (Session.start board (Console.powerOn cart))).2
          let up := (Script.act (.request .bringUp) script).run Action.perform start
          cart.hardware.prg.size = spec.prgSize ∧ up.2.ShowsPrg board cart.hardware.prg ∧
            spec.chr.cells.size = spec.chrSize ∧ spec.chr.SameKind up.2.bus.patterns ∧
            up.2.ShowsPatterns board := by
  intro limit prgOk chrOk
  obtain ⟨hmade, hprgRefused, hchrRefused⟩ := spec.synthesize_cases board
  have hiff : (∃ cart, spec.synthesize board = .ok cart) ↔ prgOk ∧ chrOk := by
    refine ⟨fun ⟨cart, hcart⟩ => ?_, fun h => ⟨_, hmade h.1 h.2⟩⟩
    have hprg : prgOk := by
      by_contra hno
      rw [hprgRefused hno] at hcart
      cases hcart
    refine ⟨hprg, ?_⟩
    by_contra hno
    rw [hchrRefused hprg hno] at hcart
    cases hcart
  refine ⟨hiff, hprgRefused, hchrRefused, spec.withPrgKib_eq, spec.withChrKib_eq, ?_⟩
  intro cart hcart before script hspares start up
  obtain ⟨hprg, hchr⟩ := hiff.mp ⟨cart, hcart⟩
  cases hcart.symm.trans (hmade hprg hchr)
  have hfits : ImageSpec.sizeFits (taggedPrg spec.prgSize).size 0x4000 limit.prgSize = true := by
    rw [size_taggedPrg]
    exact ImageSpec.isSize_iff.mp hprg
  have himage : PrgImage board (taggedPrg spec.prgSize) :=
    ⟨hfits, hasPageTags_taggedPrg _, fun _ => hasIdentityTables_taggedPrg _⟩
  have hboard : OnBoard board (taggedPrg spec.prgSize) spec.chr .vertical start :=
    (OnBoard.powerOn ..).run before
  have hstep : InStep board (taggedPrg spec.prgSize) .vertical up.2 :=
    hboard.inStep_bringUp.run himage.quiet hspares
  obtain ⟨shadow, hshadow, -⟩ := (Session.follows_bringUp_run hboard.board_eq script).shadow
  have hkind : spec.chr.SameKind up.2.bus.patterns := (hboard.run _).kind
  have hsize : up.2.bus.patterns.cells.size = spec.chrSize := hkind.size.trans spec.size_chr
  have hchrFits : ImageSpec.sizeFits up.2.bus.patterns.cells.size 0x2000 limit.chrSize = true := by
    rw [hsize]
    exact ImageSpec.isSize_iff.mp hchr
  refine ⟨size_taggedPrg _, hstep.showsPrg himage.length himage.quiet hshadow ?_, spec.size_chr,
    hkind, hstep.showsPatterns himage.quiet hshadow (Chr.whole_of_fits hchrFits) ?_⟩
  · exact (size_taggedPrg spec.prgSize).symm ▸ hprg.2.2
  · exact hsize.symm ▸ hchr.2.2

/-- An MMC4 whose registers were written raw before it was brought up: a byte of the last CHR bank
shows after an access in the row of the first trigger tile. -/
theorem images_are_reachable_mmc4 :
    let spec : ImageSpec := { prgSize := 0x8000, chrSize := 0x4000, chrRam := false }
    let cart := Cartridge.ofParts .mmc4 (taggedPrg 0x8000) spec.chr .vertical
    let before : Script Action := .act (.writeCpu 0xF000 1) (.act (.readPpu 0x0FE8) .done)
    let script : Script Action := .act (.request (.selectChr 1 2)) (.act (.writeCpu 0x6000 9) .done)
    let start := (before.run Action.perform (Session.start .mmc4 (Console.powerOn cart))).2
    let up := (Script.act (.request .bringUp) script).run Action.perform start
    let selected := up.2.request (.selectChr 0 3)
    spec.synthesize .mmc4 = .ok cart ∧ script.Forall Action.SparesRegisters ∧
      selected.1 = .ok () ∧ up.2.bus.patterns.cells[0x3234]? =
        some ((selected.2.bus.readPpu 0x0FDB).2.readPpu 0x0234).1 := by
  intro spec cart before script start up selected
  have hprg : ImageSpec.IsSize spec.prgSize 0x4000 (ImageSpec.forBoard .mmc4).prgSize :=
    ⟨⟨15, rfl⟩, by decide, by decide⟩
  have hchr : ImageSpec.IsSize spec.chrSize 0x2000 (ImageSpec.forBoard .mmc4).chrSize :=
    ⟨⟨14, rfl⟩, by decide, by decide⟩
  have hcart : spec.synthesize .mmc4 = .ok cart := (spec.synthesize_cases .mmc4).1 hprg hchr
  have hspares : script.Forall Action.SparesRegisters := ⟨trivial, Or.inr rfl, trivial⟩
  obtain ⟨-, -, -, -, -, hreach⟩ := images_are_reachable .mmc4 spec
  obtain ⟨-, -, hsize, hkind, hshows⟩ := hreach cart hcart before script hspares
  have hoffset : 0x3234 < up.2.bus.patterns.cells.size := by
    rw [hkind.size.trans hsize]
    decide
  obtain ⟨hok, hread⟩ := hshows 0x3234 hoffset
  exact ⟨hcart, hspares, hok, hread 0x0FDB rfl⟩

end NesCartridge
