/-
  NesCartridge.Proofs.BankedStore

  A memory behind banks as a store. Every byte of every bank is in one cell (`Memory.cellAt?`), the
  same for reading and for storing, and numbers of 64 bits are enough to find it, however large
  bank, size and offset are. A byte that is stored is read back at its cell, and all other cells
  keep theirs. Main statement: `banked_memory_is_store`.
-/
import NesCartridge.Proofs.BankedIndex
import NesCartridge.Proofs.Checked.Arithmetic

namespace NesCartridge

open Checked

namespace Memory

variable {mem : Memory} {bank size offset : Nat}

theorem bankedIndex_lt_size (h : 0 < mem.size) (bank size offset : Nat) :
    bankedIndex mem.size bank size offset < mem.size :=
  bankedIndex_lt h bank size offset

/-- The cell that a byte of a bank is in; a missing memory has none. -/
def cellAt? (mem : Memory) (bank size offset : Nat) : Option (Fin mem.size) :=
  if h : 0 < mem.size then
    some ⟨bankedIndex mem.size bank size offset, bankedIndex_lt_size h bank size offset⟩
  else none

/-- Two accesses are to one cell. -/
def SameCell (mem : Memory) (bank size offset bank' size' offset' : Nat) : Prop :=
  ∃ cell, mem.cellAt? bank size offset = some cell ∧
    mem.cellAt? bank' size' offset' = some cell

/-- The cell as it is worked out in numbers of 64 bits. That it is a cell of the memory is one of
the steps that could fail. -/
def checkedCellAt? (mem : Memory) (bank size offset : Nat) : Checked (Option (Fin mem.size)) := do
  if mem.size = 0 then return none
  else return some (← index (← checkedBankedIndex mem.size bank size offset) mem.size)

/-! ## Cells -/

theorem cellAt?_of_pos (h : 0 < mem.size) (bank size offset : Nat) :
    mem.cellAt? bank size offset =
      some ⟨bankedIndex mem.size bank size offset, bankedIndex_lt_size h bank size offset⟩ :=
  dif_pos h

theorem cellAt?_eq_none_iff : mem.cellAt? bank size offset = none ↔ mem.size = 0 := by
  by_cases hpos : 0 < mem.size
  · rw [cellAt?_of_pos hpos]
    exact iff_of_false (Option.some_ne_none _) (Nat.ne_of_gt hpos)
  · exact iff_of_true (dif_neg hpos) (Nat.eq_zero_of_not_pos hpos)

/-- Where there is a cell, there is a memory and the cell is at the index of the access. -/
theorem val_of_cellAt? {cell : Fin mem.size} (h : mem.cellAt? bank size offset = some cell) :
    cell.val = bankedIndex mem.size bank size offset := by
  rw [cellAt?_of_pos (Nat.zero_lt_of_lt cell.isLt)] at h
  exact congrArg Fin.val (Option.some.inj h).symm

theorem sameCell_iff {bank' size' offset' : Nat} (h : 0 < mem.size) :
    mem.SameCell bank size offset bank' size' offset' ↔
      bankedIndex mem.size bank size offset = bankedIndex mem.size bank' size' offset' := by
  constructor
  · rintro ⟨cell, hcell, hcell'⟩
    exact (val_of_cellAt? hcell).symm.trans (val_of_cellAt? hcell')
  · intro heq
    refine ⟨_, cellAt?_of_pos h bank size offset, ?_⟩
    rw [cellAt?_of_pos h]
    exact congrArg some (Fin.ext heq.symm)

theorem checkedCellAt?_eq (hlimit : mem.size < sizeLimit) (hsize : 0 < size)
    (hsizeLimit : size < sizeLimit) (bank offset : Nat) :
    mem.checkedCellAt? bank size offset = .ok (mem.cellAt? bank size offset) := by
  rw [checkedCellAt?]
  split
  next hempty => rw [cellAt?_eq_none_iff.mpr hempty, pure_eq]
  next hne =>
    have hpos : 0 < mem.size := Nat.pos_of_ne_zero hne
    rw [checkedBankedIndex_eq hpos hlimit hsize hsizeLimit, ok_bind,
      index_eq (bankedIndex_lt_size hpos bank size offset), ok_bind, pure_eq, cellAt?_of_pos hpos]

/-! ## Reading and storing -/

theorem banked_eq_cell (mem : Memory) (bank size offset : Nat) :
    mem.banked bank size offset = (mem.cellAt? bank size offset).elim 0 mem.cell := by
  rw [banked, cellAt?]
  split
  next => rfl
  next => rfl

theorem setBanked_eq_cell (mem : Memory) (bank size offset : Nat) (value : UInt8) :
    mem.setBanked bank size offset value =
      (mem.cellAt? bank size offset).elim mem fun cell => mem.setIfInBounds cell value := by
  by_cases hpos : 0 < mem.size
  · rw [setBanked_eq_setIfInBounds hpos, cellAt?_of_pos hpos]
    rfl
  · rw [setBanked, dif_neg hpos, cellAt?, dif_neg hpos]
    rfl

/-- When one of bank size and length divides the other, the cell is found as if the memory were
repeated without end. -/
theorem val_of_cellAt?_of_fits {cell : Fin mem.size} (hsize : 0 < size)
    (hfits : size ∣ mem.size ∨ mem.size ∣ size)
    (h : mem.cellAt? bank size offset = some cell) :
    cell.val = (bank * size + offset % size) % mem.size := by
  rw [val_of_cellAt? h]
  exact bankedIndex_eq_mod (Nat.zero_lt_of_lt cell.isLt) hsize hfits bank offset

end Memory

namespace Chr

variable {chr : Chr} {bank size offset bank' size' offset' : Nat}

theorem read_write_of_sameCell (hram : chr.writable = true)
    (hsame : chr.cells.SameCell bank size offset bank' size' offset') (value : UInt8) :
    (chr.write bank size offset value).read bank' size' offset' = value := by
  have hpos : 0 < chr.cells.size := by
    obtain ⟨cell, -⟩ := hsame
    exact Nat.zero_lt_of_lt cell.isLt
  rw [write, if_pos hram, read, Memory.banked_setBanked hpos,
    if_pos ((Memory.sameCell_iff hpos).mp hsame)]

theorem read_write_of_other
    (hother : ¬ (chr.writable = true ∧ chr.cells.SameCell bank size offset bank' size' offset'))
    (value : UInt8) :
    (chr.write bank size offset value).read bank' size' offset' = chr.read bank' size' offset' := by
  cases hram : chr.writable with
  | false => rw [write_of_not_writable hram]
  | true =>
    rw [write, if_pos hram]
    by_cases hpos : 0 < chr.cells.size
    · have hapart : ¬ bankedIndex chr.cells.size bank size offset =
          bankedIndex chr.cells.size bank' size' offset' :=
        fun heq => hother ⟨hram, (Memory.sameCell_iff hpos).mpr heq⟩
      rw [read, Memory.banked_setBanked hpos, if_neg hapart, read]
    · -- In a missing memory nothing is stored.
      rw [Memory.setBanked, dif_neg hpos]

end Chr

/-- In a memory of up to 2⁶³ - 1 bytes, numbers of 64 bits find the one cell that a byte of a bank
is read from and stored in, and they fail to find one exactly if there is no memory. Where bank size
and length fit, it is the cell at the byte's distance from bank 0. In pattern memory a store shows
at every access to its cell, if it is RAM, and at no other. -/
theorem banked_memory_is_store (mem : Memory) (hlength : mem.size < 0x8000_0000_0000_0000)
    (chr : Chr) (bank size offset : Nat) (hsize : 0 < size) (hsizeLimit : size < sizeLimit) :
    mem.checkedBanked bank size offset = .ok (mem.banked bank size offset) ∧
      (∀ value, mem.checkedSetBanked bank size offset value =
        .ok (mem.setBanked bank size offset value)) ∧
      (∃ cell? : Option (Fin mem.size), mem.checkedCellAt? bank size offset = .ok cell? ∧
        (cell? = none ↔ mem.size = 0) ∧
        mem.banked bank size offset = cell?.elim 0 mem.cell ∧
        (∀ value, mem.setBanked bank size offset value =
          cell?.elim mem fun cell => mem.setIfInBounds cell value) ∧
        (size ∣ mem.size ∨ mem.size ∣ size →
          ∀ cell ∈ cell?, cell.val = (bank * size + offset % size) % mem.size)) ∧
      ∀ value,
        let written := chr.write bank size offset value
        written.cells.size = chr.cells.size ∧
          ∀ bank' size' offset',
            let same := chr.cells.SameCell bank size offset bank' size' offset'
            (chr.writable = true ∧ same → written.read bank' size' offset' = value) ∧
              (¬ (chr.writable = true ∧ same) →
                written.read bank' size' offset' = chr.read bank' size' offset') := by
  have hlimit : mem.size < sizeLimit := Nat.lt_trans hlength (by decide)
  refine ⟨Memory.checkedBanked_eq hlimit hsize hsizeLimit bank offset,
    Memory.checkedSetBanked_eq hlimit hsize hsizeLimit bank offset,
    ⟨mem.cellAt? bank size offset, Memory.checkedCellAt?_eq hlimit hsize hsizeLimit bank offset,
      Memory.cellAt?_eq_none_iff, mem.banked_eq_cell .., mem.setBanked_eq_cell bank size offset,
      fun hfits cell hcell => Memory.val_of_cellAt?_of_fits hsize hfits hcell⟩,
    fun value => ⟨Chr.size_write .., fun bank' size' offset' => ⟨?_, ?_⟩⟩⟩
  · rintro ⟨hram, hsame⟩
    exact Chr.read_write_of_sameCell hram hsame value
  · intro hother
    exact Chr.read_write_of_other hother value

/-- The last bank of the largest size in a memory of three bytes, and the same byte seen through
banks of three and of two. -/
theorem banked_memory_is_store_wrapped :
    let mem : Memory := #[1, 2, 3]
    let last := sizeLimit - 1
    mem.checkedBanked last last (last - 1) = .ok 3 ∧
      (∃ cell, mem.checkedCellAt? last last (last - 1) = .ok (some cell) ∧ cell.val = 2) ∧
      let written := ({ cells := mem, writable := true } : Chr).write last last (last - 1) 9
      written.read 0 3 2 = 9 ∧ written.read 5 2 1 = 2 := by
  intro mem last
  obtain ⟨hread, -, ⟨cell?, hcell, hnone, -, -, hplace⟩, hwrite⟩ :=
    banked_memory_is_store mem (by decide) { cells := mem, writable := true } last last (last - 1)
      (by decide) (by decide)
  obtain ⟨-, hreads⟩ := hwrite 9
  have hpos : 0 < mem.size := by decide
  refine ⟨hread.trans (congrArg Except.ok (by decide)), ?_, (hreads 0 3 2).1 ⟨rfl, ?_⟩,
    ((hreads 5 2 1).2 ?_).trans ?_⟩
  · cases hcase : cell? with
    | none => exact absurd (hnone.mp hcase) (by decide)
    | some cell =>
      subst hcase
      exact ⟨cell, hcell, (hplace (.inr (by decide)) cell rfl).trans (by decide)⟩
  · exact (Memory.sameCell_iff hpos).mpr (by decide)
  · exact fun h => absurd ((Memory.sameCell_iff hpos).mp h.2) (by decide)
  · decide

end NesCartridge
