/-
  NesCartridge.Proofs.ChrDecoding

  Where the PPU's pattern addresses lead while the chip holds the shadow, chip by chip and for every
  board: a CHR window without a latch shows the bank selected for it (`Chip.Wired.chrCell_window`).
-/
import NesCartridge.Proofs.Chip.Holds
import NesCartridge.Proofs.Decoding

namespace NesCartridge

/-- The cell of a pattern memory of `length` bytes that a window shows at an address. -/
def Window.chrCell (window : Window) (bank length : Nat) (addr : UInt16) : Nat :=
  (bank * window.size + (addr.toNat - window.base.toNat)) % length

/-- Banks of up to 8 KiB fit into every pattern memory a whole number of times. -/
theorem bankedIndex_of_chr {length size : Nat} (hpos : 0 < length) (hlength : 0x2000 ∣ length)
    (hsize : size ∣ 0x2000) (bank offset : Nat) :
    bankedIndex length bank size offset = (bank * size + offset % size) % length :=
  bankedIndex_of_dvd_length hpos (Nat.dvd_trans hsize hlength) bank offset

/-! ## Chip by chip -/

section Chips

variable {board : Board} {shadow : Shadow} {number : Nat} {window : Window} {addr : UInt16}
  {length : Nat}

/-- Two windows of 4 KiB. -/
theorem Mmc1.Holds.chrCell_window {chip : Mmc1} (h : chip.Holds shadow) (hfits : shadow.Fits .mmc1)
    (hwindow : Board.mmc1.descriptor.chrWindows[number]? = some window)
    (hcovers : window.Covers addr) (hpos : 0 < length) (hlength : 0x2000 ∣ length) :
    bankedIndex length (chip.chrBank addr) 0x1000 addr.toNat =
      window.chrCell (shadow.chrBank number) length addr := by
  have hslot : number < 2 := (List.getElem?_eq_some_iff.mp hwindow).1
  have hrange : window.size = 0x1000 ∧ (if 0x1000 ≤ addr.toNat then 1 else 0) = number ∧
      addr.toNat % 0x1000 = addr.toNat - window.base.toNat := by
    match number, hslot with
    | 0, _ =>
      cases hwindow
      have hhigh : addr.toNat < 0 + 0x1000 := hcovers.2
      exact ⟨rfl, if_neg (by omega), Nat.mod_eq_of_lt (by omega)⟩
    | 1, _ =>
      cases hwindow
      have hlow : 0x1000 ≤ addr.toNat := hcovers.1
      have hhigh : addr.toNat < 0x1000 + 0x1000 := hcovers.2
      refine ⟨rfl, if_pos hlow, ?_⟩
      show addr.toNat % 0x1000 = addr.toNat - 0x1000
      omega
  obtain ⟨hsize, hnumber, hoffset⟩ := hrange
  have hbank := h.chrBank_eq hfits addr
  rw [hnumber] at hbank
  rw [bankedIndex_of_chr hpos hlength (by omega), hbank, Window.chrCell, hsize, hoffset]

/-- Two windows of 2 KiB, then four of 1 KiB. -/
theorem Mmc3.chrWindow_place (hwindow : Board.mmc3.descriptor.chrWindows[number]? = some window) :
    (number < 2 ∧ window.size = 0x800 ∧ window.base.toNat = number * 0x800) ∨
      (2 ≤ number ∧ number < 6 ∧ window.size = 0x400 ∧
        window.base.toNat = (number + 2) * 0x400) := by
  have hslot : number < 6 := (List.getElem?_eq_some_iff.mp hwindow).1
  match number, hslot with
  | 0, _ | 1, _ => cases hwindow; decide
  | 2, _ | 3, _ | 4, _ | 5, _ => cases hwindow; decide

theorem Mmc3.Holds.chrCell_window {chip : Mmc3} (h : chip.Holds shadow) (hfits : shadow.Fits .mmc3)
    (hselect : Board.mmc3.IsSelect chip.bankSelect)
    (hwindow : Board.mmc3.descriptor.chrWindows[number]? = some window)
    (hcovers : window.Covers addr) (hpos : 0 < length) (hlength : 0x2000 ∣ length) :
    bankedIndex length (chip.chrBank addr) 0x400 addr.toNat =
      window.chrCell (shadow.chrBank number) length addr := by
  have hbank := h.chrBank_eq hfits hselect addr
  dsimp only at hbank
  obtain ⟨hlow, hhigh⟩ := hcovers
  rw [bankedIndex_of_chr hpos hlength (by omega), hbank, Window.chrCell]
  rcases Mmc3.chrWindow_place hwindow with ⟨hwide, hsize, hbase⟩ | ⟨hnarrow, hlast, hsize, hbase⟩
  · -- Two 1 KiB slots, one behind the other, make up a wide window.
    rw [hsize, hbase] at hhigh
    rw [hbase] at hlow
    rw [if_pos (by omega), hsize, hbase, show addr.toNat / 0x400 % 8 / 2 = number by omega]
    refine congrArg (fun cell => cell % length) ?_
    omega
  · rw [hsize, hbase] at hhigh
    rw [hbase] at hlow
    rw [if_neg (by omega), hsize, hbase, show addr.toNat / 0x400 % 8 - 2 = number by omega]
    refine congrArg (fun cell => cell % length) ?_
    omega

/-- One window of 8 KiB. -/
theorem Action53.Holds.chrCell_window {chip : Action53} (h : chip.Holds shadow)
    (hfits : shadow.Fits .action53)
    (hwindow : Board.action53.descriptor.chrWindows[number]? = some window)
    (hcovers : window.Covers addr) (hpos : 0 < length) (hlength : 0x2000 ∣ length) :
    bankedIndex length chip.chr.toNat 0x2000 addr.toNat =
      window.chrCell (shadow.chrBank number) length addr := by
  have hzero : number = 0 := Nat.lt_one_iff.mp (List.getElem?_eq_some_iff.mp hwindow).1
  subst hzero
  cases hwindow
  have hhigh : addr.toNat < 0 + 0x2000 := hcovers.2
  have hoffset : addr.toNat % 0x2000 = addr.toNat - 0 := Nat.mod_eq_of_lt (by omega)
  rw [bankedIndex_of_chr hpos hlength (by omega), h.chr_toNat hfits, hoffset]
  rfl

/-- Eight windows of 1 KiB. -/
theorem Fme7.Holds.chrCell_window {chip : Fme7} (h : chip.Holds shadow) (hfits : shadow.Fits .fme7)
    (hwindow : Board.fme7.descriptor.chrWindows[number]? = some window)
    (hcovers : window.Covers addr) (hpos : 0 < length) (hlength : 0x2000 ∣ length) :
    bankedIndex length (chip.chrBank addr) 0x400 addr.toNat =
      window.chrCell (shadow.chrBank number) length addr := by
  have hslot : number < 8 := (List.getElem?_eq_some_iff.mp hwindow).1
  -- The number of the window is the 1 KiB slot of the address.
  have hplace : window.size = 0x400 ∧ window.base.toNat = number * 0x400 := by
    match number, hslot with
    | 0, _ | 1, _ | 2, _ | 3, _ | 4, _ | 5, _ | 6, _ | 7, _ => cases hwindow; exact ⟨rfl, rfl⟩
  obtain ⟨hsize, hbase⟩ := hplace
  obtain ⟨hlow, hhigh⟩ := hcovers
  rw [hsize, hbase] at hhigh
  rw [hbase] at hlow
  rw [bankedIndex_of_chr hpos hlength (by omega), h.chrBank_eq hfits, Window.chrCell, hsize, hbase,
    show addr.toNat / 0x400 % 8 = number by omega]
  refine congrArg (fun cell => cell % length) ?_
  omega

theorem Discrete.Holds.chrCell_window {chip : Discrete} (h : chip.Holds shadow)
    (hlayout : board.descriptor.latch = some chip.layout) (hfits : shadow.Fits board)
    (hwindow : board.descriptor.chrWindows[number]? = some window)
    (hcovers : window.Covers addr) (hpos : 0 < length) (hlength : 0x2000 ∣ length) :
    bankedIndex length (chip.layout.chr.extract chip.latch).toNat 0x2000 addr.toNat =
      window.chrCell (shadow.chrBank number) length addr := by
  obtain ⟨rfl, hbase, hsize⟩ := Discrete.chrWindow_eq hlayout hwindow
  have hhigh := hcovers.2
  rw [hbase, hsize] at hhigh
  have hlt : addr.toNat < 0 + 0x2000 := hhigh
  have hoffset : addr.toNat % 0x2000 = addr.toNat - 0 := Nat.mod_eq_of_lt (by omega)
  rw [bankedIndex_of_chr hpos hlength (by omega), h.chr_extract hlayout hfits, Window.chrCell,
    hbase, hsize, hoffset]
  rfl

end Chips

/-! ## Every board -/

/-- A CHR window without a latch shows the bank that was selected for it. -/
theorem Chip.Wired.chrCell_window {board : Board} {solder : Mirroring} {chip : Chip}
    {shadow : Shadow} (h : chip.Wired board solder) (hholds : chip.Holds shadow)
    (hfits : shadow.Fits board) (hselect : chip.SelectsOn board) {number : Nat} {window : Window}
    (hwindow : board.descriptor.chrWindows[number]? = some window) (hlatch : window.latch = none)
    {addr : UInt16} (hcovers : window.Covers addr) {length : Nat} (hpos : 0 < length)
    (hlength : 0x2000 ∣ length) :
    bankedIndex length (chip.chrRef addr).bank (chip.chrRef addr).size addr.toNat =
      window.chrCell (shadow.chrBank number) length addr := by
  cases h with
  | nrom => cases hwindow
  | mmc1 => exact Mmc1.Holds.chrCell_window hholds hfits hwindow hcovers hpos hlength
  | mmc2 | mmc4 =>
    -- All windows of these boards have a latch.
    have hslot : number < 4 := (List.getElem?_eq_some_iff.mp hwindow).1
    match number, hslot with
    | 0, _ | 1, _ | 2, _ | 3, _ =>
      cases hwindow
      cases hlatch
  | mmc3 =>
    exact Mmc3.Holds.chrCell_window hholds hfits (hselect _ rfl) hwindow hcovers hpos hlength
  | action53 => exact Action53.Holds.chrCell_window hholds hfits hwindow hcovers hpos hlength
  | fme7 => exact Fme7.Holds.chrCell_window hholds hfits hwindow hcovers hpos hlength
  | discrete hlayout =>
    exact Discrete.Holds.chrCell_window hholds hlayout hfits hwindow hcovers hpos hlength

end NesCartridge
