/-
  NesCartridge.Proofs.Chip.Discrete

  What the latch of a discrete board under the controller holds. Each write replaces the whole
  latch, so the controller sends all fields every time, and the fields of the seven layouts are
  apart from each other and wide enough for the banks of their windows (`prg_extract`,
  `chr_extract`).
-/
import NesCartridge.Proofs.ChipWiring

namespace NesCartridge

namespace Discrete

/-- The latch holds what the shadow says. -/
structure Holds (chip : Discrete) (shadow : Shadow) : Prop where
  latch : chip.latch = shadow.latchByte chip.layout

/-! ## Boards with a latch -/

section LatchBoards

variable {board : Board} {layout : LatchLayout} (hlayout : board.descriptor.latch = some layout)

include hlayout

theorem discreteWrites_eq (shadow : Shadow) :
    board.discreteWrites shadow = latchWrites board.descriptor (shadow.latchByte layout) := by
  rw [Board.discreteWrites, hlayout]

theorem prgWrites_eq (shadow : Shadow) (number : Nat) :
    board.prgWrites shadow number = board.discreteWrites shadow := by
  cases board with
  | nrom | mmc1 | mmc3 | mmc2 | mmc4 | action53 | fme7 => cases hlayout
  | uxRom | cnRom | axRom | colorDreams | unrom512 | bnRom | gnRom => rfl

theorem chrWrites_eq (shadow : Shadow) (number : Nat) :
    board.chrWrites shadow number = board.discreteWrites shadow := by
  cases board with
  | nrom | mmc1 | mmc3 | mmc2 | mmc4 | action53 | fme7 => cases hlayout
  | uxRom | cnRom | axRom | colorDreams | unrom512 | bnRom | gnRom => rfl

theorem mirroringWrites_eq (shadow : Shadow) :
    board.mirroringWrites shadow = board.discreteWrites shadow := by
  cases board with
  | nrom | mmc1 | mmc3 | mmc2 | mmc4 | action53 | fme7 => cases hlayout
  | uxRom | cnRom | axRom | colorDreams | unrom512 | bnRom | gnRom => rfl

theorem bringUpWrites_eq : board.bringUpWrites = board.discreteWrites (.atBringUp board) := by
  cases board with
  | nrom | mmc1 | mmc3 | mmc2 | mmc4 | action53 | fme7 => cases hlayout
  | uxRom | cnRom | axRom | colorDreams | unrom512 | bnRom | gnRom => rfl

/-- Neither work RAM nor an IRQ counter. -/
theorem features_eq :
    board.descriptor.wram = .none ∧ board.descriptor.supportsIrq = false := by
  cases board with
  | nrom | mmc1 | mmc3 | mmc2 | mmc4 | action53 | fme7 => cases hlayout
  | uxRom | cnRom | axRom | colorDreams | unrom512 | bnRom | gnRom => exact ⟨rfl, rfl⟩

/-- No two fields share a bit. -/
theorem fields_disjoint :
    layout.prg.mask &&& layout.chr.mask = 0 ∧ layout.prg.mask &&& layout.screen.mask = 0 ∧
      layout.chr.mask &&& layout.screen.mask = 0 := by
  cases board with
  | nrom | mmc1 | mmc3 | mmc2 | mmc4 | action53 | fme7 => cases hlayout
  | uxRom | cnRom | axRom | colorDreams | unrom512 | bnRom | gnRom => cases hlayout; decide

/-- The PRG field has a bit for every bit of the window's banks; so has the CHR field. -/
theorem bank_and_max {shadow : Shadow} (hfits : shadow.Fits board) :
    UInt8.ofNat (shadow.prgBank 0) &&& layout.prg.max = UInt8.ofNat (shadow.prgBank 0) ∧
      UInt8.ofNat (shadow.chrBank 0) &&& layout.chr.max = UInt8.ofNat (shadow.chrBank 0) := by
  -- A board without windows of a kind has only bank 0 there.
  have hzero : ∀ mask, UInt8.ofNat 0 &&& mask = UInt8.ofNat 0 := fun _ => UInt8.zero_and
  cases board with
  | nrom | mmc1 | mmc3 | mmc2 | mmc4 | action53 | fme7 => cases hlayout
  | uxRom =>
    cases hlayout
    rw [hfits.chrBank_of_none rfl, hzero]
    exact ⟨ofNat_and_of_lt 4 (Nat.lt_succ_of_le (hfits.prg_le 0 _ rfl)) (by omega) rfl, rfl⟩
  | cnRom =>
    cases hlayout
    rw [hfits.prgBank_of_none rfl, hzero]
    exact ⟨rfl, ofNat_and_of_lt 2 (Nat.lt_succ_of_le (hfits.chr_le 0 _ rfl)) (by omega) rfl⟩
  | axRom =>
    cases hlayout
    rw [hfits.chrBank_of_none rfl, hzero]
    exact ⟨ofNat_and_of_lt 3 (Nat.lt_succ_of_le (hfits.prg_le 0 _ rfl)) (by omega) rfl, rfl⟩
  | colorDreams =>
    cases hlayout
    exact ⟨ofNat_and_of_lt 2 (Nat.lt_succ_of_le (hfits.prg_le 0 _ rfl)) (by omega) rfl,
      ofNat_and_of_lt 4 (Nat.lt_succ_of_le (hfits.chr_le 0 _ rfl)) (by omega) rfl⟩
  | unrom512 =>
    cases hlayout
    exact ⟨ofNat_and_of_lt 5 (Nat.lt_succ_of_le (hfits.prg_le 0 _ rfl)) (by omega) rfl,
      ofNat_and_of_lt 2 (Nat.lt_succ_of_le (hfits.chr_le 0 _ rfl)) (by omega) rfl⟩
  | bnRom =>
    cases hlayout
    rw [hfits.chrBank_of_none rfl, hzero]
    exact ⟨ofNat_and_of_lt 2 (Nat.lt_succ_of_le (hfits.prg_le 0 _ rfl)) (by omega) rfl, rfl⟩
  | gnRom =>
    cases hlayout
    exact ⟨ofNat_and_of_lt 2 (Nat.lt_succ_of_le (hfits.prg_le 0 _ rfl)) (by omega) rfl,
      ofNat_and_of_lt 2 (Nat.lt_succ_of_le (hfits.chr_le 0 _ rfl)) (by omega) rfl⟩

/-- At most one PRG window, of 16 or 32 KiB from `$8000`. -/
theorem prgWindow_eq {number : Nat} {window : Window}
    (hwindow : board.descriptor.prgWindows[number]? = some window) :
    number = 0 ∧ window.base = 0x8000 ∧
      window.size =
        if board.descriptor.prgWindows.head?.any (·.size = 0x4000) then 0x4000 else 0x8000 := by
  have hlt := (List.getElem?_eq_some_iff.mp hwindow).1
  cases board with
  | nrom | mmc1 | mmc3 | mmc2 | mmc4 | action53 | fme7 => cases hlayout
  | cnRom => cases hwindow
  | uxRom | axRom | colorDreams | unrom512 | bnRom | gnRom =>
    have hzero : number = 0 := Nat.lt_one_iff.mp hlt
    subst hzero
    cases hwindow
    exact ⟨rfl, rfl, rfl⟩

/-- At most one CHR window, of 8 KiB. -/
theorem chrWindow_eq {number : Nat} {window : Window}
    (hwindow : board.descriptor.chrWindows[number]? = some window) :
    number = 0 ∧ window.base = 0 ∧ window.size = 0x2000 := by
  have hlt := (List.getElem?_eq_some_iff.mp hwindow).1
  cases board with
  | nrom | mmc1 | mmc3 | mmc2 | mmc4 | action53 | fme7 => cases hlayout
  | uxRom | axRom | bnRom => cases hwindow
  | cnRom | colorDreams | unrom512 | gnRom =>
    have hzero : number = 0 := Nat.lt_one_iff.mp hlt
    subst hzero
    cases hwindow
    exact ⟨rfl, rfl, rfl⟩

/-- A latch that switches the mirroring does so by one bit, between the one-screen modes. -/
theorem screen_of_supports {mode : Mirroring}
    (hmode : board.descriptor.supportsMirroring mode = true) :
    (mode = .oneScreenLower ∨ mode = .oneScreenUpper) ∧ layout.screen.isPresent = true ∧
      layout.screen.max = 1 := by
  cases board with
  | nrom | mmc1 | mmc3 | mmc2 | mmc4 | action53 | fme7 => cases hlayout
  | uxRom | cnRom | colorDreams | bnRom | gnRom => cases mode <;> cases hmode
  | axRom | unrom512 =>
    cases hlayout
    cases mode with
    | oneScreenLower => exact ⟨Or.inl rfl, rfl, rfl⟩
    | oneScreenUpper => exact ⟨Or.inr rfl, rfl, rfl⟩
    | vertical | horizontal | fourScreen => cases hmode

end LatchBoards

/-! ## What the latch holds -/

variable {board : Board} {layout : LatchLayout} {chip : Discrete} {shadow after : Shadow}

/-- Wherever it is sent, a latch write replaces the latch. -/
theorem writeAll_latchWrites (chip : Discrete) (desc : Descriptor) (value : UInt8) :
    (Chip.discrete chip).writeAll (latchWrites desc value) =
      .discrete { chip with latch := value } := by
  unfold latchWrites
  split
  · -- The cell of the identity table that holds the value lies in PRG space.
    have htable := toNat_identityTable value
    show Chip.discrete (chip.write (Address.identityTable + value.toUInt16) value) = _
    rw [write, if_pos (by omega)]
  · rfl

/-- Whatever was asked for, the answer is the whole latch once more. -/
theorem writes_of_answers (hlayout : board.descriptor.latch = some layout) {req : Request}
    {writes : List RegisterWrite} (hans : board.Answers shadow req after writes) :
    writes = latchWrites board.descriptor (after.latchByte layout) := by
  rw [← discreteWrites_eq hlayout]
  cases hans with
  | bringUp => exact bringUpWrites_eq hlayout
  | selectPrg => exact prgWrites_eq hlayout ..
  | selectChr => exact chrWrites_eq hlayout ..
  | setMirroring => exact mirroringWrites_eq hlayout _
  | setWram hmode =>
    rw [(features_eq hlayout).1] at hmode
    cases hmode
  | configureIrq hirq | acknowledgeIrq hirq =>
    rw [(features_eq hlayout).2] at hirq
    cases hirq

/-- After an accepted request the latch holds the new shadow. -/
theorem Holds.answers (hlayout : board.descriptor.latch = some layout)
    (hchip : chip.layout = layout) {req : Request} {writes : List RegisterWrite}
    (hans : board.Answers shadow req after writes) :
    ∃ next, (Chip.discrete chip).writeAll writes = .discrete next ∧ next.layout = layout ∧
      next.Holds after := by
  rw [writes_of_answers hlayout hans]
  refine ⟨_, writeAll_latchWrites chip _ _, hchip, ⟨?_⟩⟩
  show after.latchByte layout = after.latchByte chip.layout
  rw [hchip]

/-! ## What the latch maps -/

theorem Holds.prg_extract (h : chip.Holds shadow)
    (hlayout : board.descriptor.latch = some chip.layout) (hfits : shadow.Fits board) :
    (chip.layout.prg.extract chip.latch).toNat = shadow.prgBank 0 := by
  rw [h.latch, Shadow.latchByte, BitField.extract_insert, (bank_and_max hlayout hfits).1,
    toNat_ofNat_of_le (hfits.prgBank_le 0)]

/-- A 16 KiB window below the last bank, or one window of 32 KiB. -/
theorem Holds.cpuTarget_eq (h : chip.Holds shadow)
    (hlayout : board.descriptor.latch = some chip.layout) (hfits : shadow.Fits board)
    {addr : UInt16} (haddr : 0x8000 ≤ addr.toNat) (prgSize : Nat) :
    chip.cpuTarget prgSize addr = .prg
      (if chip.prg16k then
        ⟨if addr.toNat < 0xC000 then shadow.prgBank 0 else bankCount prgSize 0x4000 - 1, 0x4000⟩
      else ⟨shadow.prgBank 0, 0x8000⟩) := by
  rw [cpuTarget, if_pos haddr, prgRef, h.prg_extract hlayout hfits]

theorem Holds.chr_extract (h : chip.Holds shadow)
    (hlayout : board.descriptor.latch = some chip.layout) (hfits : shadow.Fits board) :
    (chip.layout.chr.extract chip.latch).toNat = shadow.chrBank 0 := by
  rw [h.latch, Shadow.latchByte,
    BitField.extract_insert_of_disjoint _ _ _ _ (fields_disjoint hlayout).1,
    BitField.extract_insert, (bank_and_max hlayout hfits).2,
    toNat_ofNat_of_le (hfits.chrBank_le 0)]

/-- A latch with a screen bit shows the one-screen mode of the shadow. -/
theorem Holds.mirroring_eq (h : chip.Holds shadow)
    (hlayout : board.descriptor.latch = some chip.layout)
    (hmode : board.descriptor.supportsMirroring shadow.mode = true) :
    chip.mirroring = shadow.mode := by
  obtain ⟨-, hprg, hchr⟩ := fields_disjoint hlayout
  have hscreen : chip.layout.screen.extract chip.latch =
      (if shadow.mode = .oneScreenUpper then 1 else 0) &&& chip.layout.screen.max := by
    rw [h.latch, Shadow.latchByte, BitField.extract_insert_of_disjoint _ _ _ _ hprg,
      BitField.extract_insert_of_disjoint _ _ _ _ hchr, BitField.extract_insert]
  obtain ⟨hone, hpresent, hmax⟩ := screen_of_supports hlayout hmode
  rw [mirroring, hpresent, hscreen, hmax]
  rcases hone with hone | hone <;> rw [hone] <;> rfl

end Discrete

end NesCartridge
