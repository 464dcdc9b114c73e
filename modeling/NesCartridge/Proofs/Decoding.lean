/-
  NesCartridge.Proofs.Decoding

  The address map that a board ought to have. A window covers a range of addresses, and what no PRG
  window covers shows a cell that no request moves (`Board.fixedCell`), on most boards counted from
  the end of the memory (`bankedIndex_eq_end`).
-/
import Mathlib.Data.Nat.ModEq
import NesCartridge.Proofs.BankedIndex

namespace NesCartridge

/-- The address lies in the window. -/
def Window.Covers (window : Window) (addr : UInt16) : Prop :=
  window.base.toNat ≤ addr.toNat ∧ addr.toNat < window.base.toNat + window.size

instance (window : Window) (addr : UInt16) : Decidable (window.Covers addr) :=
  inferInstanceAs (Decidable (_ ∧ _))

/-- Cell of a PRG memory of `length` bytes that an address outside all PRG windows shows. -/
def Board.fixedCell (board : Board) (length : Nat) (addr : UInt16) : Nat :=
  match board with
  -- Without a PRG window the memory starts at `$8000`.
  | .nrom | .cnRom => (addr.toNat - 0x8000) % length
  -- The last 16 KiB of the outer bank.
  | .action53 => (15 * 0x4000 + addr.toNat % 0x4000) % length
  -- The end of the memory, repeated downwards from `$FFFF`.
  | _ => (4 * length - (0x10000 - addr.toNat)) % length

/-! ## Banks counted from the end -/

/-- A bank shows the end of the memory if whole memories fit between its start and the end of the
address space. -/
theorem bankedIndex_eq_end (back : Nat) {length size bank addr : Nat} (hlength : PrgLength length)
    (hsize : 0 < size) (hfits : size ∣ length ∨ length ∣ size) (haddr : 0x8000 ≤ addr)
    (hback : addr % size + (0x10000 - addr) = (back + 1) * size)
    (hdvd : length ∣ (bank + back + 1) * size) :
    bankedIndex length bank size addr = (4 * length - (0x10000 - addr)) % length := by
  have hfour : 0x8000 ≤ 4 * length := by
    have hle := Nat.le_of_dvd hlength.pos hlength.page_dvd
    omega
  have hleft : bank * size + addr % size + (0x10000 - addr) ≡ 0 [MOD length] := by
    have hsum : bank * size + addr % size + (0x10000 - addr) = (bank + back + 1) * size := by
      rw [Nat.add_assoc, hback, ← Nat.add_mul, Nat.add_assoc]
    rw [hsum]
    exact Nat.modEq_zero_iff_dvd.mpr hdvd
  have hright : 4 * length - (0x10000 - addr) + (0x10000 - addr) ≡ 0 [MOD length] := by
    rw [Nat.sub_add_cancel (by omega)]
    exact Nat.modEq_zero_iff_dvd.mpr (Nat.dvd_mul_left length 4)
  rw [bankedIndex_eq_mod hlength.pos hsize hfits]
  exact Nat.ModEq.add_right_cancel' _ (hleft.trans hright.symm)

/-- All banks together make up whole memories. -/
theorem dvd_bankCount_mul {length size : Nat} (hlength : 0 < length)
    (hfits : size ∣ length ∨ length ∣ size) : length ∣ bankCount length size * size := by
  rcases hfits with hdvd | hdvd
  · have hcount : 1 ≤ length / size :=
      Nat.div_pos (Nat.le_of_dvd hlength hdvd) (Nat.pos_of_dvd_of_pos hdvd hlength)
    have hmax : bankCount length size = length / size := Nat.max_eq_left hcount
    rw [hmax, Nat.div_mul_cancel hdvd]
  · exact Nat.dvd_mul_left_of_dvd hdvd _

/-- The last 16 KiB. -/
theorem bankedIndex_last16k {length addr : Nat} (hlength : PrgLength length)
    (hlow : 0xC000 ≤ addr) (hhigh : addr < 0x10000) :
    bankedIndex length (bankCount length 0x4000 - 1) 0x4000 addr =
      (4 * length - (0x10000 - addr)) % length := by
  have hfits : 0x4000 ∣ length ∨ length ∣ 0x4000 := hlength.fits (show 14 ≤ 15 by omega)
  have hpos := bankCount_pos length 0x4000
  apply bankedIndex_eq_end 0 hlength (by decide) hfits (by omega) (by omega)
  rw [Nat.add_zero, Nat.sub_add_cancel hpos]
  exact dvd_bankCount_mul hlength.pos hfits

/-- One of the last 8 KiB pages: `back` pages follow it. A memory with fewer pages than that is
seen repeated. -/
theorem bankedIndex_lastPage (back : Nat) {length addr bank : Nat} (hlength : PrgLength length)
    (hlow : 0x8000 ≤ addr) (hback : addr / 0x2000 + back = 7)
    (hdvd : length ∣ (bank + back + 1) * 0x2000) :
    bankedIndex length bank 0x2000 addr = (4 * length - (0x10000 - addr)) % length :=
  bankedIndex_eq_end back hlength (by decide) (Or.inl hlength.page_dvd) hlow (by omega) hdvd

/-- Two pages counted from the end, or the only page twice. -/
theorem dvd_lastTwo {length : Nat} (hlength : PrgLength length) :
    length ∣ (bankCount length 0x2000 - 1 - 1 + 1 + 1) * 0x2000 := by
  have hpages := dvd_bankCount_mul hlength.pos (Or.inl hlength.page_dvd)
  by_cases htwo : 2 ≤ bankCount length 0x2000
  · rwa [show bankCount length 0x2000 - 1 - 1 + 1 + 1 = bankCount length 0x2000 by omega]
  · have hpos := bankCount_pos length 0x2000
    have hone : bankCount length 0x2000 = 1 := by omega
    rw [hone] at hpages ⊢
    exact Nat.dvd_trans hpages (by decide)

/-- Four pages counted from the end; fewer are one or two, which repeat up to four. -/
theorem dvd_lastFour {length : Nat} (hlength : PrgLength length) :
    length ∣ (bankCount length 0x2000 - 4 + 4) * 0x2000 := by
  have hpages := dvd_bankCount_mul hlength.pos (Or.inl hlength.page_dvd)
  by_cases hfour : 4 ≤ bankCount length 0x2000
  · rwa [Nat.sub_add_cancel hfour]
  · have hwide : 0x8000 ∣ length ∨ length ∣ 0x8000 := hlength.fits (show 15 ≤ 15 by omega)
    rcases hwide with hdvd | hdvd
    · have hle : length / 0x2000 ≤ bankCount length 0x2000 := Nat.le_max_left _ _
      have hbig : 4 * 0x2000 ≤ length := Nat.le_of_dvd hlength.pos hdvd
      have hmany := (Nat.le_div_iff_mul_le (by decide)).mpr hbig
      exact absurd (Nat.le_trans hmany hle) hfour
    · rw [Nat.sub_eq_zero_of_le (by omega)]
      exact Nat.dvd_trans hdvd (by decide)

/-- A memory of one 32 KiB bank or less, mapped from its start. -/
theorem bankedIndex_whole {prgSize : Nat} (hprg : PrgLength prgSize) {addr : UInt16}
    (haddr : 0x8000 ≤ addr.toNat) :
    bankedIndex prgSize 0 0x8000 addr.toNat = (addr.toNat - 0x8000) % prgSize := by
  have hhigh : addr.toNat < 0x10000 := addr.toNat_lt
  have hoffset : addr.toNat % 0x8000 = addr.toNat - 0x8000 := by omega
  have hsizes : 0x8000 ∣ prgSize ∨ prgSize ∣ 0x8000 := hprg.fits (Nat.le_refl 15)
  rw [bankedIndex_eq_mod hprg.pos (by omega) hsizes, Nat.zero_mul, Nat.zero_add, hoffset]

end NesCartridge
