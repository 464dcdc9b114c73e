/-
  NesCartridge.Proofs.PrgDecoding

  Where the CPU's addresses lead while the chip holds the shadow, chip by chip and for every board.
  Each PRG window shows the bank selected for it (`Chip.Wired.cpuTarget_window`), and the rest of
  `$8000`–`$FFFF` a part of the memory that no request moves (`Chip.Wired.showsFixed`).
-/
import NesCartridge.Proofs.Chip.Holds
import NesCartridge.Proofs.Decoding

namespace NesCartridge

/-- What answers at an address is the fixed part of the memory. -/
def Board.ShowsFixed (board : Board) (prgSize : Nat) (addr : UInt16) (target : CpuTarget) : Prop :=
  ∃ ref, target = .prg ref ∧
    bankedIndex prgSize ref.bank ref.size addr.toNat = board.fixedCell prgSize addr

/-! ## Chip by chip -/

section ProgramSide

variable {board : Board} {shadow : Shadow} {number : Nat} {window : Window} {addr : UInt16}
  {prgSize : Nat}

namespace Mmc1.Holds

variable {chip : Mmc1}

theorem cpuTarget_window (h : chip.Holds shadow) (hfits : shadow.Fits .mmc1)
    (hwindow : Board.mmc1.descriptor.prgWindows[number]? = some window)
    (hcovers : window.Covers addr) (prgSize : Nat) :
    chip.cpuTarget prgSize addr = .prg ⟨shadow.prgBank number, window.size⟩ := by
  have hzero : number = 0 := Nat.lt_one_iff.mp (List.getElem?_eq_some_iff.mp hwindow).1
  subst hzero
  cases hwindow
  have hlow : 0x8000 ≤ addr.toNat := hcovers.1
  have hhigh : addr.toNat < 0x8000 + 0x4000 := hcovers.2
  rw [Mmc1.cpuTarget, inWram_of_le hlow, if_neg (by decide), if_pos hlow, h.prgBank_eq hfits,
    if_neg (by omega)]

theorem showsFixed (h : chip.Holds shadow) (hfits : shadow.Fits .mmc1) (hprg : PrgLength prgSize)
    (haddr : 0x8000 ≤ addr.toNat)
    (hout : ∀ window ∈ Board.mmc1.descriptor.prgWindows, ¬ window.Covers addr) :
    Board.mmc1.ShowsFixed prgSize addr (chip.cpuTarget prgSize addr) := by
  have hwindow : ¬ (0x8000 ≤ addr.toNat ∧ addr.toNat < 0x8000 + 0x4000) :=
    hout _ (List.mem_cons_self ..)
  have hlow : 0xC000 ≤ addr.toNat := by omega
  refine ⟨⟨bankCount prgSize 0x4000 - 1, 0x4000⟩, ?_, bankedIndex_last16k hprg hlow addr.toNat_lt⟩
  rw [Mmc1.cpuTarget, inWram_of_le haddr, if_neg (by decide), if_pos haddr, h.prgBank_eq hfits,
    if_pos hlow]

end Mmc1.Holds

namespace Mmc2.Holds

variable {chip : Mmc2}

/-- An MMC2 has a window of 8 KiB. -/
theorem cpuTarget_window_mmc2 (h : chip.Holds shadow) (hfits : shadow.Fits .mmc2)
    (hkind : chip.isMmc4 = false)
    (hwindow : Board.mmc2.descriptor.prgWindows[number]? = some window)
    (hcovers : window.Covers addr) (prgSize wramSize : Nat) :
    chip.cpuTarget prgSize wramSize addr = .prg ⟨shadow.prgBank number, window.size⟩ := by
  have hzero : number = 0 := Nat.lt_one_iff.mp (List.getElem?_eq_some_iff.mp hwindow).1
  subst hzero
  cases hwindow
  have hlow : 0x8000 ≤ addr.toNat := hcovers.1
  have hhigh : addr.toNat < 0x8000 + 0x2000 := hcovers.2
  rw [Mmc2.cpuTarget, inWram_of_le hlow, if_neg (by decide), if_pos hlow, prgRef, hkind,
    if_neg (by decide), if_pos (by omega), h.prg_toNat hfits]

/-- An MMC4 has a window of 16 KiB. -/
theorem cpuTarget_window_mmc4 (h : chip.Holds shadow) (hfits : shadow.Fits .mmc4)
    (hkind : chip.isMmc4 = true)
    (hwindow : Board.mmc4.descriptor.prgWindows[number]? = some window)
    (hcovers : window.Covers addr) (prgSize wramSize : Nat) :
    chip.cpuTarget prgSize wramSize addr = .prg ⟨shadow.prgBank number, window.size⟩ := by
  have hzero : number = 0 := Nat.lt_one_iff.mp (List.getElem?_eq_some_iff.mp hwindow).1
  subst hzero
  cases hwindow
  have hlow : 0x8000 ≤ addr.toNat := hcovers.1
  have hhigh : addr.toNat < 0x8000 + 0x4000 := hcovers.2
  rw [Mmc2.cpuTarget, inWram_of_le hlow, if_neg (by decide), if_pos hlow, prgRef, hkind, if_pos rfl,
    if_pos (by omega), h.prg_toNat hfits]

end Mmc2.Holds

namespace Mmc2

variable {chip : Mmc2}

/-- The three pages behind the window of an MMC2 are the last of four. -/
theorem showsFixed_mmc2 (hkind : chip.isMmc4 = false) (hprg : PrgLength prgSize)
    (wramSize : Nat) (haddr : 0x8000 ≤ addr.toNat)
    (hout : ∀ window ∈ Board.mmc2.descriptor.prgWindows, ¬ window.Covers addr) :
    Board.mmc2.ShowsFixed prgSize addr (chip.cpuTarget prgSize wramSize addr) := by
  have hhigh : addr.toNat < 0x10000 := addr.toNat_lt
  have hwindow : ¬ (0x8000 ≤ addr.toNat ∧ addr.toNat < 0x8000 + 0x2000) :=
    hout _ (List.mem_cons_self ..)
  -- Page 7 of the address space is the last, so `7 - addr / 0x2000` pages follow.
  refine ⟨⟨bankCount prgSize 0x2000 - 4 + (addr.toNat - 0x8000) / 0x2000, 0x2000⟩, ?_,
    bankedIndex_lastPage (7 - addr.toNat / 0x2000) hprg haddr (by omega) ?_⟩
  · rw [cpuTarget, inWram_of_le haddr, if_neg (by decide), if_pos haddr, prgRef, hkind,
      if_neg (by decide), if_neg (by omega)]
  · have hsum : bankCount prgSize 0x2000 - 4 + (addr.toNat - 0x8000) / 0x2000 +
        (7 - addr.toNat / 0x2000) + 1 = bankCount prgSize 0x2000 - 4 + 4 := by omega
    rw [hsum]
    exact dvd_lastFour hprg

theorem showsFixed_mmc4 (hkind : chip.isMmc4 = true) (hprg : PrgLength prgSize)
    (wramSize : Nat) (haddr : 0x8000 ≤ addr.toNat)
    (hout : ∀ window ∈ Board.mmc4.descriptor.prgWindows, ¬ window.Covers addr) :
    Board.mmc4.ShowsFixed prgSize addr (chip.cpuTarget prgSize wramSize addr) := by
  have hwindow : ¬ (0x8000 ≤ addr.toNat ∧ addr.toNat < 0x8000 + 0x4000) :=
    hout _ (List.mem_cons_self ..)
  have hlow : 0xC000 ≤ addr.toNat := by omega
  refine ⟨⟨bankCount prgSize 0x4000 - 1, 0x4000⟩, ?_, bankedIndex_last16k hprg hlow addr.toNat_lt⟩
  rw [cpuTarget, inWram_of_le haddr, if_neg (by decide), if_pos haddr, prgRef, hkind, if_pos rfl,
    if_neg (by omega)]

end Mmc2

namespace Mmc3

variable {chip : Mmc3}

/-- The upper half of the address space is four slots. -/
theorem cpuTarget_of_le (chip : Mmc3) (haddr : 0x8000 ≤ addr.toNat) (prgSize : Nat) :
    chip.cpuTarget prgSize addr =
      .prg ⟨chip.prgBank prgSize (addr.toNat / 0x2000 % 4), 0x2000⟩ := by
  rw [cpuTarget, inWram_of_le haddr, if_neg (by decide), if_pos haddr]

theorem Holds.cpuTarget_window (h : chip.Holds shadow) (hfits : shadow.Fits .mmc3)
    (hselect : Board.mmc3.IsSelect chip.bankSelect)
    (hwindow : Board.mmc3.descriptor.prgWindows[number]? = some window)
    (hcovers : window.Covers addr) (prgSize : Nat) :
    chip.cpuTarget prgSize addr = .prg ⟨shadow.prgBank number, window.size⟩ := by
  have hlt : number < 2 := (List.getElem?_eq_some_iff.mp hwindow).1
  have hbank := h.prgBank_eq hfits hselect prgSize
  match number, hlt with
  | 0, _ =>
    cases hwindow
    have hlow : 0x8000 ≤ addr.toNat := hcovers.1
    have hhigh : addr.toNat < 0x8000 + 0x2000 := hcovers.2
    rw [cpuTarget_of_le chip hlow, show addr.toNat / 0x2000 % 4 = 0 by omega, hbank]
    rfl
  | 1, _ =>
    cases hwindow
    have hlow : 0xA000 ≤ addr.toNat := hcovers.1
    have hhigh : addr.toNat < 0xA000 + 0x2000 := hcovers.2
    rw [cpuTarget_of_le chip (by omega), show addr.toNat / 0x2000 % 4 = 1 by omega, hbank]
    rfl

theorem Holds.showsFixed (h : chip.Holds shadow) (hfits : shadow.Fits .mmc3)
    (hselect : Board.mmc3.IsSelect chip.bankSelect) (hprg : PrgLength prgSize)
    (haddr : 0x8000 ≤ addr.toNat)
    (hout : ∀ window ∈ Board.mmc3.descriptor.prgWindows, ¬ window.Covers addr) :
    Board.mmc3.ShowsFixed prgSize addr (chip.cpuTarget prgSize addr) := by
  have hhigh : addr.toNat < 0x10000 := addr.toNat_lt
  have hfirst : ¬ (0x8000 ≤ addr.toNat ∧ addr.toNat < 0x8000 + 0x2000) :=
    hout ⟨0x8000, 0x2000, 63, none⟩ (by decide)
  have hsecond : ¬ (0xA000 ≤ addr.toNat ∧ addr.toNat < 0xA000 + 0x2000) :=
    hout ⟨0xA000, 0x2000, 63, none⟩ (by decide)
  have hbank := h.prgBank_eq hfits hselect prgSize
  have hcount := bankCount_pos prgSize 0x2000
  have hpages : prgSize ∣ bankCount prgSize 0x2000 * 0x2000 :=
    dvd_bankCount_mul hprg.pos (Or.inl hprg.page_dvd)
  refine ⟨_, cpuTarget_of_le chip haddr prgSize, ?_⟩
  -- The third slot is the last page but one, the fourth the last.
  by_cases hlast : addr.toNat < 0xE000
  · apply bankedIndex_lastPage 1 hprg haddr (by omega)
    rw [show addr.toNat / 0x2000 % 4 = 2 by omega, hbank]
    exact dvd_lastTwo hprg
  · apply bankedIndex_lastPage 0 hprg haddr (by omega)
    rw [show addr.toNat / 0x2000 % 4 = 3 by omega, hbank]
    show prgSize ∣ (bankCount prgSize 0x2000 - 1 + 0 + 1) * 0x2000
    rwa [Nat.add_zero, Nat.sub_add_cancel hcount]

end Mmc3

namespace Action53.Holds

variable {chip : Action53}

theorem cpuTarget_window (h : chip.Holds shadow) (hfits : shadow.Fits .action53)
    (hwindow : Board.action53.descriptor.prgWindows[number]? = some window)
    (hcovers : window.Covers addr) :
    chip.cpuTarget addr = .prg ⟨shadow.prgBank number, window.size⟩ := by
  have hzero : number = 0 := Nat.lt_one_iff.mp (List.getElem?_eq_some_iff.mp hwindow).1
  subst hzero
  cases hwindow
  have hlow : 0x8000 ≤ addr.toNat := hcovers.1
  have hhigh : addr.toNat < 0x8000 + 0x4000 := hcovers.2
  rw [Action53.cpuTarget, if_pos hlow, h.prgBank_eq hfits, if_neg (by omega)]

theorem showsFixed (h : chip.Holds shadow) (hfits : shadow.Fits .action53)
    (hprg : PrgLength prgSize) (haddr : 0x8000 ≤ addr.toNat)
    (hout : ∀ window ∈ Board.action53.descriptor.prgWindows, ¬ window.Covers addr) :
    Board.action53.ShowsFixed prgSize addr (chip.cpuTarget addr) := by
  have hhigh : addr.toNat < 0x10000 := addr.toNat_lt
  have hwindow : ¬ (0x8000 ≤ addr.toNat ∧ addr.toNat < 0x8000 + 0x4000) :=
    hout _ (List.mem_cons_self ..)
  -- The bank is the last of the outer bank, which need not be the last of the memory.
  have hsizes : 0x4000 ∣ prgSize ∨ prgSize ∣ 0x4000 := hprg.fits (show 14 ≤ 15 by omega)
  refine ⟨⟨15, 0x4000⟩, ?_, bankedIndex_eq_mod hprg.pos (by omega) hsizes ..⟩
  rw [Action53.cpuTarget, if_pos haddr, h.prgBank_eq hfits, if_pos (by omega)]

end Action53.Holds

namespace Fme7

variable {chip : Fme7}

/-- The three PRG windows follow each other from `$8000`. -/
theorem prgWindow_place (hwindow : Board.fme7.descriptor.prgWindows[number]? = some window)
    (hcovers : window.Covers addr) :
    window.size = 0x2000 ∧ 0x8000 ≤ addr.toNat ∧ (addr.toNat - 0x8000) / 0x2000 = number := by
  have hlt : number < 3 := (List.getElem?_eq_some_iff.mp hwindow).1
  match number, hlt with
  | 0, _ =>
    cases hwindow
    have hlow : 0x8000 ≤ addr.toNat := hcovers.1
    have hhigh : addr.toNat < 0x8000 + 0x2000 := hcovers.2
    exact ⟨rfl, hlow, by omega⟩
  | 1, _ =>
    cases hwindow
    have hlow : 0xA000 ≤ addr.toNat := hcovers.1
    have hhigh : addr.toNat < 0xA000 + 0x2000 := hcovers.2
    exact ⟨rfl, by omega, by omega⟩
  | 2, _ =>
    cases hwindow
    have hlow : 0xC000 ≤ addr.toNat := hcovers.1
    have hhigh : addr.toNat < 0xC000 + 0x2000 := hcovers.2
    exact ⟨rfl, by omega, by omega⟩

theorem Holds.cpuTarget_window (h : chip.Holds shadow) (hfits : shadow.Fits .fme7)
    (hwindow : Board.fme7.descriptor.prgWindows[number]? = some window)
    (hcovers : window.Covers addr) (prgSize : Nat) :
    chip.cpuTarget prgSize addr = .prg ⟨shadow.prgBank number, window.size⟩ := by
  have hslot : number < 3 := (List.getElem?_eq_some_iff.mp hwindow).1
  obtain ⟨hsize, hlow, hindex⟩ := prgWindow_place hwindow hcovers
  have hbank := h.prg_toNat hfits ⟨number, hslot⟩
  rw [cpuTarget, inWram_of_le hlow, if_neg (by decide), if_neg (by omega), hsize]
  simp only [hindex, hslot, dif_pos]
  exact congrArg (fun bank => CpuTarget.prg ⟨bank, 0x2000⟩) hbank

theorem showsFixed (chip : Fme7) (hprg : PrgLength prgSize) (haddr : 0x8000 ≤ addr.toNat)
    (hout : ∀ window ∈ Board.fme7.descriptor.prgWindows, ¬ window.Covers addr) :
    Board.fme7.ShowsFixed prgSize addr (chip.cpuTarget prgSize addr) := by
  have hhigh : addr.toNat < 0x10000 := addr.toNat_lt
  have hfirst : ¬ (0x8000 ≤ addr.toNat ∧ addr.toNat < 0x8000 + 0x2000) :=
    hout ⟨0x8000, 0x2000, 63, none⟩ (by decide)
  have hsecond : ¬ (0xA000 ≤ addr.toNat ∧ addr.toNat < 0xA000 + 0x2000) :=
    hout ⟨0xA000, 0x2000, 63, none⟩ (by decide)
  have hthird : ¬ (0xC000 ≤ addr.toNat ∧ addr.toNat < 0xC000 + 0x2000) :=
    hout ⟨0xC000, 0x2000, 63, none⟩ (by decide)
  refine ⟨⟨bankCount prgSize 0x2000 - 1, 0x2000⟩, ?_,
    bankedIndex_lastPage 0 hprg haddr (by omega) ?_⟩
  · have hslot : ¬ (addr.toNat - 0x8000) / 0x2000 < 3 := by omega
    rw [cpuTarget, inWram_of_le haddr, if_neg (by decide), if_neg (by omega)]
    simp only [hslot, dif_neg, not_false_iff]
  · rw [Nat.add_zero, Nat.sub_add_cancel (bankCount_pos prgSize 0x2000)]
    exact dvd_bankCount_mul hprg.pos (Or.inl hprg.page_dvd)

end Fme7

namespace Discrete.Holds

variable {chip : Discrete}

theorem cpuTarget_window (h : chip.Holds shadow)
    (hlayout : board.descriptor.latch = some chip.layout)
    (hkind : chip.prg16k = board.descriptor.prgWindows.head?.any (·.size = 0x4000))
    (hfits : shadow.Fits board) (hwindow : board.descriptor.prgWindows[number]? = some window)
    (hcovers : window.Covers addr) (prgSize : Nat) :
    chip.cpuTarget prgSize addr = .prg ⟨shadow.prgBank number, window.size⟩ := by
  obtain ⟨rfl, hbase, hsize⟩ := Discrete.prgWindow_eq hlayout hwindow
  obtain ⟨hlow, hhigh⟩ := hcovers
  rw [hbase] at hlow hhigh
  have hlow' : 0x8000 ≤ addr.toNat := hlow
  -- The chip and the registry agree on the size of the window.
  rw [← hkind] at hsize
  rw [h.cpuTarget_eq hlayout hfits hlow']
  cases hwide : chip.prg16k with
  | true =>
    rw [hwide, if_pos rfl] at hsize
    rw [hsize] at hhigh
    have hbelow : addr.toNat < 0x8000 + 0x4000 := hhigh
    rw [if_pos rfl, if_pos (by omega), hsize]
  | false =>
    rw [hwide, if_neg (by decide)] at hsize
    rw [if_neg (by decide), hsize]

theorem showsFixed (h : chip.Holds shadow) (hlayout : board.descriptor.latch = some chip.layout)
    (hkind : chip.prg16k = board.descriptor.prgWindows.head?.any (·.size = 0x4000))
    (hfits : shadow.Fits board) (hprg : PrgLength prgSize) (haddr : 0x8000 ≤ addr.toNat)
    (hout : ∀ window ∈ board.descriptor.prgWindows, ¬ window.Covers addr) :
    board.ShowsFixed prgSize addr (chip.cpuTarget prgSize addr) := by
  have hhigh : addr.toNat < 0x10000 := addr.toNat_lt
  rw [h.cpuTarget_eq hlayout hfits haddr, hkind]
  cases board with
  | nrom | mmc1 | mmc3 | mmc2 | mmc4 | action53 | fme7 => cases hlayout
  | uxRom | unrom512 =>
    have hwindow : ¬ (0x8000 ≤ addr.toNat ∧ addr.toNat < 0x8000 + 0x4000) :=
      hout _ (List.mem_cons_self ..)
    have hlow : 0xC000 ≤ addr.toNat := by omega
    refine ⟨⟨bankCount prgSize 0x4000 - 1, 0x4000⟩, ?_, bankedIndex_last16k hprg hlow hhigh⟩
    show CpuTarget.prg ⟨if addr.toNat < 0xC000 then _ else _, 0x4000⟩ = _
    rw [if_neg (by omega)]
  | cnRom =>
    -- There is no PRG window here, so the bank never leaves 0.
    refine ⟨⟨0, 0x8000⟩, ?_, bankedIndex_whole hprg haddr⟩
    show CpuTarget.prg ⟨shadow.prgBank 0, 0x8000⟩ = _
    rw [hfits.prgBank_of_none rfl]
  | axRom | colorDreams | bnRom | gnRom =>
    -- One window fills the upper half, and nothing is left.
    have hwindow : ¬ (0x8000 ≤ addr.toNat ∧ addr.toNat < 0x8000 + 0x8000) :=
      hout _ (List.mem_cons_self ..)
    omega

end Discrete.Holds

end ProgramSide

/-! ## Every board -/

namespace Chip.Wired

variable {board : Board} {solder : Mirroring} {chip : Chip} {shadow : Shadow} {addr : UInt16}

/-- A PRG window shows the bank that was selected for it. -/
theorem cpuTarget_window (h : chip.Wired board solder) (hholds : chip.Holds shadow)
    (hfits : shadow.Fits board) (hselect : chip.SelectsOn board) {number : Nat} {window : Window}
    (hwindow : board.descriptor.prgWindows[number]? = some window)
    (hcovers : window.Covers addr) (prgSize wramSize : Nat) :
    chip.cpuTarget prgSize wramSize addr = .prg ⟨shadow.prgBank number, window.size⟩ := by
  cases h with
  | nrom => cases hwindow
  | mmc1 => exact Mmc1.Holds.cpuTarget_window hholds hfits hwindow hcovers prgSize
  | mmc2 hkind =>
    exact Mmc2.Holds.cpuTarget_window_mmc2 hholds hfits hkind hwindow hcovers prgSize wramSize
  | mmc4 hkind =>
    exact Mmc2.Holds.cpuTarget_window_mmc4 hholds hfits hkind hwindow hcovers prgSize wramSize
  | mmc3 => exact Mmc3.Holds.cpuTarget_window hholds hfits (hselect _ rfl) hwindow hcovers prgSize
  | action53 => exact Action53.Holds.cpuTarget_window hholds hfits hwindow hcovers
  | fme7 => exact Fme7.Holds.cpuTarget_window hholds hfits hwindow hcovers prgSize
  | discrete hlayout =>
    exact Discrete.Holds.cpuTarget_window hholds hlayout rfl hfits hwindow hcovers prgSize

/-- The rest of the upper half of the address space shows fixed banks. -/
theorem showsFixed (h : chip.Wired board solder) (hholds : chip.Holds shadow)
    (hfits : shadow.Fits board) (hselect : chip.SelectsOn board) {prgSize : Nat}
    (hprg : PrgLength prgSize) (wramSize : Nat) (haddr : 0x8000 ≤ addr.toNat)
    (hout : ∀ window ∈ board.descriptor.prgWindows, ¬ window.Covers addr) :
    board.ShowsFixed prgSize addr (chip.cpuTarget prgSize wramSize addr) := by
  cases h with
  | nrom => exact ⟨⟨0, 0x8000⟩, if_pos ⟨haddr, hprg.pos⟩, bankedIndex_whole hprg haddr⟩
  | mmc1 => exact Mmc1.Holds.showsFixed hholds hfits hprg haddr hout
  | mmc2 hkind => exact Mmc2.showsFixed_mmc2 hkind hprg wramSize haddr hout
  | mmc4 hkind => exact Mmc2.showsFixed_mmc4 hkind hprg wramSize haddr hout
  | mmc3 => exact Mmc3.Holds.showsFixed hholds hfits (hselect _ rfl) hprg haddr hout
  | action53 => exact Action53.Holds.showsFixed hholds hfits hprg haddr hout
  | fme7 => exact Fme7.showsFixed _ hprg haddr hout
  | discrete hlayout => exact Discrete.Holds.showsFixed hholds hlayout rfl hfits hprg haddr hout

end Chip.Wired

end NesCartridge
