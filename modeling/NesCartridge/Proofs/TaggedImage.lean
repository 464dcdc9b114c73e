/-
  NesCartridge.Proofs.TaggedImage

  What is in a self-describing image: every byte is that of the page that covers its place, also in
  a last page that is cut short (`getElem?_taggedPrg`, `getElem?_taggedChr`), so every PRG page
  starts with its number and holds the identity table, and every CHR page starts with its number.
-/
import NesCartridge.Proofs.BankedIndex

namespace NesCartridge

/-! ## Pages in a row -/

/-- Byte `offset` of a whole page, as a place in the row. -/
theorem place_in_page {length pageSize number offset : Nat}
    (hnumber : number < length / pageSize) (hoffset : offset < pageSize) :
    number * pageSize + offset < length ∧ (number * pageSize + offset) / pageSize = number ∧
      (number * pageSize + offset) % pageSize = offset := by
  have hpos : 0 < pageSize := Nat.zero_lt_of_lt hoffset
  refine ⟨?_, ?_, ?_⟩
  · have hnext : (number + 1) * pageSize ≤ length / pageSize * pageSize :=
      Nat.mul_le_mul_right _ hnumber
    have hlength := Nat.div_mul_le_self length pageSize
    rw [Nat.succ_mul] at hnext
    omega
  · rw [Nat.mul_comm, Nat.mul_add_div hpos, Nat.div_eq_of_lt hoffset, Nat.add_zero]
  · rw [Nat.mul_add_mod_self_right, Nat.mod_eq_of_lt hoffset]

section Pages

variable {pageSize : Nat} {page : Nat → Memory} (hsize : ∀ n, (page n).size = pageSize)

include hsize

theorem size_flatMap_pages (count : Nat) :
    ((Array.range count).flatMap page).size = count * pageSize := by
  induction count with
  | zero =>
    have hnone : Array.range 0 = #[] := rfl
    rw [hnone, Nat.zero_mul]
    rfl
  | succ count ih =>
    rw [Array.range_succ, Array.flatMap_append, Array.flatMap_singleton, Array.size_append, ih,
      hsize, Nat.succ_mul]

/-- Each page keeps its place. -/
theorem getElem?_flatMap_pages {count number offset : Nat} (hnumber : number < count)
    (hoffset : offset < pageSize) :
    ((Array.range count).flatMap page)[number * pageSize + offset]? = (page number)[offset]? := by
  -- The pages are appended at the end, so all but the last are there by induction.
  induction count with
  | zero => exact absurd hnumber (Nat.not_lt_zero _)
  | succ count ih =>
    have hsizes := size_flatMap_pages hsize count
    rw [Array.range_succ, Array.flatMap_append, Array.flatMap_singleton]
    by_cases hlast : number = count
    · subst hlast
      rw [Array.getElem?_append_right (by omega), hsizes, Nat.add_sub_cancel_left]
    · have hlt : number < count := by omega
      have hbefore : number * pageSize + offset < count * pageSize := by
        have hnext : (number + 1) * pageSize ≤ count * pageSize := Nat.mul_le_mul_right _ hlt
        rw [Nat.succ_mul] at hnext
        omega
      rw [Array.getElem?_append_left (by omega), ih hlt]

/-- Cut off anywhere, a row of pages has the byte of the page that covers a place. -/
theorem getElem?_extract_pages {length place : Nat} (hpos : 0 < pageSize)
    (hplace : place < length) :
    (((Array.range (length / pageSize + 1)).flatMap page).extract 0 length)[place]? =
      (page (place / pageSize))[place % pageSize]? := by
  have hsizes := size_flatMap_pages hsize (length / pageSize + 1)
  have hinside : place < (length / pageSize + 1) * pageSize := by
    have hlength := Nat.lt_mul_div_succ length hpos
    rw [Nat.mul_comm] at hlength
    omega
  have hnumber : place / pageSize < length / pageSize + 1 :=
    Nat.lt_succ_of_le (Nat.div_le_div_right (Nat.le_of_lt hplace))
  have hsplit : place / pageSize * pageSize + place % pageSize = place := by
    rw [Nat.mul_comm, Nat.div_add_mod]
  have hpages := getElem?_flatMap_pages hsize hnumber (Nat.mod_lt place hpos)
  rw [hsplit] at hpages
  rw [Array.getElem?_extract, if_pos (by omega), Nat.zero_add, hpages]

theorem size_extract_pages {length : Nat} (hpos : 0 < pageSize) :
    (((Array.range (length / pageSize + 1)).flatMap page).extract 0 length).size = length := by
  have hlength := Nat.lt_mul_div_succ length hpos
  rw [Array.size_extract, size_flatMap_pages hsize, Nat.mul_comm]
  omega

end Pages

/-! ## The pages of an image -/

theorem size_prgPage (number : Nat) : (prgPage number).size = prgPageSize := by
  have hsum : 1 + (identityOffset - 1) + (prgPageSize - identityOffset) = prgPageSize := by decide
  rw [prgPage, Array.size_append, Array.size_append, Array.size_replicate, Array.size_ofFn]
  exact hsum

theorem size_chrPage (number : Nat) : (chrPage number).size = chrPageSize := by
  have hsum : 1 + (chrPageSize - 1) = chrPageSize := by decide
  rw [chrPage, Array.size_append, Array.size_replicate]
  exact hsum

theorem size_taggedPrg (size : Nat) : (taggedPrg size).size = size :=
  size_extract_pages size_prgPage (by decide)

theorem size_taggedChr (size : Nat) : (taggedChr size).size = size :=
  size_extract_pages size_chrPage (by decide)

theorem ImageSpec.size_chr (spec : ImageSpec) : spec.chr.cells.size = spec.chrSize := by
  unfold chr
  split
  next => exact Array.size_replicate
  next => exact size_taggedChr spec.chrSize

theorem getElem?_taggedPrg {size place : Nat} (h : place < size) :
    (taggedPrg size)[place]? = (prgPage (place / prgPageSize))[place % prgPageSize]? :=
  getElem?_extract_pages size_prgPage (by decide) h

theorem getElem?_taggedChr {size place : Nat} (h : place < size) :
    (taggedChr size)[place]? = (chrPage (place / chrPageSize))[place % chrPageSize]? :=
  getElem?_extract_pages size_chrPage (by decide) h

/-- A page of PRG memory starts with its number and ends with the identity table. -/
theorem getElem?_prgPage (number : Nat) {offset : Nat} (h : offset < prgPageSize) :
    (prgPage number)[offset]? = some
      (if offset = 0 then UInt8.ofNat number
      else if identityOffset ≤ offset then UInt8.ofNat (offset - identityOffset)
      else 0xFF) := by
  -- In front of the table stand the number and the fill.
  have hfill : (#[UInt8.ofNat number] ++ Array.replicate (identityOffset - 1) 0xFF).size =
      identityOffset := by
    have hsum : 1 + (identityOffset - 1) = identityOffset := by decide
    rw [Array.size_append, Array.size_replicate]
    exact hsum
  rw [prgPage]
  by_cases htable : identityOffset ≤ offset
  · have hnot : offset ≠ 0 := Nat.ne_of_gt (Nat.lt_of_lt_of_le (by decide) htable)
    have hcell : offset - identityOffset < prgPageSize - identityOffset :=
      Nat.sub_lt_sub_right htable h
    rw [Array.getElem?_append_right (hfill.symm ▸ htable), hfill, Array.getElem?_ofFn,
      dif_pos hcell, if_neg hnot, if_pos htable]
  · rw [Array.getElem?_append_left (by omega), if_neg htable]
    by_cases hzero : offset = 0
    · rw [if_pos hzero, hzero, Array.getElem?_append_left Nat.zero_lt_one]
      rfl
    · rw [if_neg hzero, Array.getElem?_append_right (Nat.pos_of_ne_zero hzero),
        Array.getElem?_replicate, if_pos]
      show offset - 1 < identityOffset - 1
      omega

/-- Every page starts with its number. -/
def Memory.HasPageTags (mem : Memory) (pageSize : Nat) : Prop :=
  ∀ number < mem.size / pageSize, mem[number * pageSize]? = some (UInt8.ofNat number)

theorem hasPageTags_taggedPrg (size : Nat) : (taggedPrg size).HasPageTags prgPageSize := by
  intro number hnumber
  rw [size_taggedPrg] at hnumber
  obtain ⟨hplace, hpage, hoffset⟩ := place_in_page hnumber (show 0 < prgPageSize by decide)
  rw [Nat.add_zero] at hplace hpage hoffset
  rw [getElem?_taggedPrg hplace, hpage, hoffset, getElem?_prgPage number (by decide), if_pos rfl]

theorem hasPageTags_taggedChr (size : Nat) : (taggedChr size).HasPageTags chrPageSize := by
  intro number hnumber
  rw [size_taggedChr] at hnumber
  obtain ⟨hplace, hpage, hoffset⟩ := place_in_page hnumber (show 0 < chrPageSize by decide)
  rw [Nat.add_zero] at hplace hpage hoffset
  rw [getElem?_taggedChr hplace, hpage, hoffset, chrPage,
    Array.getElem?_append_left Nat.zero_lt_one]
  rfl

/-- Every page of PRG memory ends with the identity table. -/
theorem hasIdentityTables_taggedPrg (size : Nat) : (taggedPrg size).HasIdentityTables := by
  intro number hnumber v hv
  rw [size_taggedPrg] at hnumber
  have hinside : identityOffset + v < prgPageSize := by
    show 0x1F00 + v < 0x2000
    omega
  obtain ⟨hplace, hpage, hoffset⟩ := place_in_page hnumber hinside
  have hnot : identityOffset + v ≠ 0 := Nat.ne_of_gt (Nat.add_pos_left (by decide) v)
  rw [Nat.add_assoc, getElem?_taggedPrg hplace, hpage, hoffset, getElem?_prgPage number hinside,
    if_neg hnot, if_pos (Nat.le_add_right ..), Nat.add_sub_cancel_left]

end NesCartridge
