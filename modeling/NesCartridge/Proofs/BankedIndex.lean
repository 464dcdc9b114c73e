/-
  NesCartridge.Proofs.BankedIndex

  Where a bank access lands. When the bank size divides the memory or the memory divides the bank
  size, the wrapping of bank numbers and the repetition of a small memory are one remainder
  (`bankedIndex_eq_mod`). PRG memories of the sizes that boards carry meet every PRG window this
  way (`PrgLength.fits`).
-/
import Mathlib.Algebra.Group.Nat.Defs
import NesCartridge.Image

namespace NesCartridge

/-! ## The index as one remainder -/

theorem bankedIndex_of_dvd_length {length size : Nat} (hlength : 0 < length)
    (hdvd : size ∣ length) (bank offset : Nat) :
    bankedIndex length bank size offset = (bank * size + offset % size) % length := by
  obtain ⟨count, rfl⟩ := hdvd
  have hsize : 0 < size := Nat.pos_of_mul_pos_right hlength
  have hcount : 0 < count := Nat.pos_of_mul_pos_left hlength
  have hmax : Nat.max (size * count / size) 1 = count := by
    rw [Nat.mul_div_cancel_left count hsize]
    exact Nat.max_eq_left hcount
  have hwrap : bank % count * size = bank * size % (size * count) := by
    rw [Nat.mul_comm size count, Nat.mul_mod_mul_right]
  rw [bankedIndex, hmax, hwrap, Nat.mod_add_mod]

theorem bankedIndex_of_length_dvd {length size : Nat} (hsize : 0 < size)
    (hdvd : length ∣ size) (bank offset : Nat) :
    bankedIndex length bank size offset = (bank * size + offset % size) % length := by
  have hlength : 0 < length := Nat.pos_of_dvd_of_pos hdvd hsize
  have hmax : Nat.max (length / size) 1 = 1 := by
    have hle : length / size ≤ 1 := by
      calc length / size ≤ size / size := Nat.div_le_div_right (Nat.le_of_dvd hsize hdvd)
        _ = 1 := Nat.div_self hsize
    exact Nat.max_eq_right hle
  -- A whole number of memories fits before the bank.
  have hbank : bank * size % length = 0 :=
    Nat.mod_eq_zero_of_dvd (Nat.dvd_mul_left_of_dvd hdvd bank)
  rw [bankedIndex, hmax, Nat.mod_one, Nat.zero_mul, Nat.zero_add, Nat.add_mod, hbank,
    Nat.zero_add, Nat.mod_mod]

/-- Bank and memory sizes of which one divides the other leave no seam. -/
theorem bankedIndex_eq_mod {length size : Nat} (hlength : 0 < length) (hsize : 0 < size)
    (hfits : size ∣ length ∨ length ∣ size) (bank offset : Nat) :
    bankedIndex length bank size offset = (bank * size + offset % size) % length := by
  cases hfits with
  | inl hdvd => exact bankedIndex_of_dvd_length hlength hdvd bank offset
  | inr hdvd => exact bankedIndex_of_length_dvd hsize hdvd bank offset

/-- Pages that divide both the banks and the memory keep their offsets. -/
theorem bankedIndex_mod_page {length size page : Nat} (hlength : page ∣ length)
    (hsize : page ∣ size) (bank offset : Nat) :
    bankedIndex length bank size offset % page = offset % page := by
  have hbank : bank % Nat.max (length / size) 1 * size % page = 0 :=
    Nat.mod_eq_zero_of_dvd (Nat.dvd_mul_left_of_dvd hsize _)
  rw [bankedIndex, Nat.mod_mod_of_dvd _ hlength, Nat.add_mod, hbank, Nat.zero_add, Nat.mod_mod,
    Nat.mod_mod_of_dvd _ hsize]

namespace Memory

theorem getElem?_bankedIndex {mem : Memory} (h : 0 < mem.size) (bank size offset : Nat) :
    mem[bankedIndex mem.size bank size offset]? = some (mem.banked bank size offset) := by
  have hlt := bankedIndex_lt h bank size offset
  rw [banked, dif_pos h]
  exact Array.getElem?_eq_getElem hlt

theorem setBanked_eq_setIfInBounds {mem : Memory} (h : 0 < mem.size) (bank size offset : Nat)
    (value : UInt8) :
    mem.setBanked bank size offset value =
      mem.setIfInBounds (bankedIndex mem.size bank size offset) value := by
  have hlt := bankedIndex_lt h bank size offset
  rw [setBanked, dif_pos h, Array.setIfInBounds, dif_pos hlt]

end Memory

/-- A power of two of at least a page is made of whole pages. -/
theorem page_dvd_two_pow {k : Nat} (h : 0x2000 ≤ 2 ^ k) : 0x2000 ∣ 2 ^ k := by
  have hk : 13 ≤ k := by
    rw [show 0x2000 = 2 ^ 13 from rfl] at h
    exact (Nat.pow_le_pow_iff_right (by omega)).mp h
  exact Nat.pow_dvd_pow 2 hk

/-! ## PRG memories -/

/-- Lengths of PRG memories that boards carry: a power of two from 8 KiB, or whole 32 KiB. -/
def PrgLength (length : Nat) : Prop :=
  (∃ k, length = 2 ^ k ∧ 0x2000 ≤ length) ∨ (0 < length ∧ 0x8000 ∣ length)

namespace PrgLength

variable {length : Nat}

theorem pos (h : PrgLength length) : 0 < length := by
  rcases h with ⟨k, rfl, hmin⟩ | ⟨hpos, -⟩
  · exact Nat.two_pow_pos k
  · exact hpos

/-- Banks of up to 32 KiB whose size is a power of two divide the memory or repeat it. -/
theorem fits (h : PrgLength length) {j : Nat} (hj : j ≤ 15) :
    2 ^ j ∣ length ∨ length ∣ 2 ^ j := by
  rcases h with ⟨k, rfl, -⟩ | ⟨-, hdvd⟩
  · rcases Nat.le_total j k with hle | hle
    · exact Or.inl (Nat.pow_dvd_pow 2 hle)
    · exact Or.inr (Nat.pow_dvd_pow 2 hle)
  · exact Or.inl (Nat.dvd_trans (Nat.pow_dvd_pow 2 hj) hdvd)

theorem page_dvd (h : PrgLength length) : 0x2000 ∣ length := by
  rcases h with ⟨k, rfl, hmin⟩ | ⟨-, hdvd⟩
  · exact page_dvd_two_pow hmin
  · exact Nat.dvd_trans (by decide) hdvd

end PrgLength

/-- Byte `v` of the table near the end of every 8 KiB page is `v`. -/
def Memory.HasIdentityTables (prg : Memory) : Prop :=
  ∀ page < prg.size / prgPageSize, ∀ v < 256,
    prg[page * prgPageSize + identityOffset + v]? = some (UInt8.ofNat v)

/-- A memory without pages has all its tables. -/
theorem Memory.hasIdentityTables_empty : Memory.HasIdentityTables #[] :=
  fun page hpage => absurd hpage (Nat.not_lt_zero page)

/-- Whatever bank of at least a page is mapped, its identity tables read as they stand. -/
theorem Memory.HasIdentityTables.banked {prg : Memory} (h : prg.HasIdentityTables)
    (hpos : 0 < prg.size) (hpages : 0x2000 ∣ prg.size) {size : Nat} (hsize : 0x2000 ∣ size)
    (bank : Nat) {offset v : Nat} (hv : v < 256)
    (hoffset : offset % 0x2000 = identityOffset + v) :
    prg.banked bank size offset = UInt8.ofNat v := by
  have hpage := bankedIndex_mod_page hpages hsize bank offset
  have hlt := bankedIndex_lt hpos bank size offset
  obtain ⟨count, hcount⟩ := hpages
  have hread := Memory.getElem?_bankedIndex hpos bank size offset
  have hin : bankedIndex prg.size bank size offset / 0x2000 < prg.size / prgPageSize := by
    rw [show prgPageSize = 0x2000 from rfl]
    omega
  -- The access falls into some page, and its offset there is that of the table's byte.
  have htable := h _ hin v hv
  have hsplit : bankedIndex prg.size bank size offset / 0x2000 * prgPageSize + identityOffset + v
      = bankedIndex prg.size bank size offset := by
    rw [show prgPageSize = 0x2000 from rfl]
    omega
  rw [hsplit, hread] at htable
  exact Option.some.inj htable

end NesCartridge
