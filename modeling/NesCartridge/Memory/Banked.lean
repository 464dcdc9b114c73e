/-
  NesCartridge.Memory.Banked

  Byte memories seen through banks. A board drives only as many high address lines as its
  memory has, so bank numbers past the end wrap around; a bank larger than the memory shows the
  memory repeated.
-/

namespace NesCartridge

abbrev Memory := Array UInt8

/-- Sizes are numbers of 64 bits. -/
def sizeLimit : Nat := 0x1_0000_0000_0000_0000

/-- Cell of a memory of `length` bytes that holds byte `offset` of bank `bank`. -/
def bankedIndex (length bank size offset : Nat) : Nat :=
  (bank % Nat.max (length / size) 1 * size + offset % size) % length

theorem bankedIndex_lt {length : Nat} (h : 0 < length) (bank size offset : Nat) :
    bankedIndex length bank size offset < length :=
  Nat.mod_lt _ h

namespace Memory

/-- Byte `offset` of bank `bank`; a missing memory reads as zero. -/
def banked (mem : Memory) (bank size offset : Nat) : UInt8 :=
  if h : 0 < mem.size then
    have := bankedIndex_lt h bank size offset
    mem[bankedIndex mem.size bank size offset]
  else 0

/-- Store `value` where `banked` reads. A missing memory stays missing. -/
def setBanked (mem : Memory) (bank size offset : Nat) (value : UInt8) : Memory :=
  if h : 0 < mem.size then
    have := bankedIndex_lt h bank size offset
    mem.set (bankedIndex mem.size bank size offset) value
  else mem

@[simp] theorem size_setBanked (mem : Memory) (bank size offset : Nat) (value : UInt8) :
    (mem.setBanked bank size offset value).size = mem.size := by
  unfold setBanked
  split <;> simp

/-- Two accesses meet exactly when they index the same cell. -/
theorem banked_setBanked {mem : Memory} (h : 0 < mem.size)
    (bank size offset bank' size' offset' : Nat) (value : UInt8) :
    (mem.setBanked bank size offset value).banked bank' size' offset' =
      if bankedIndex mem.size bank size offset = bankedIndex mem.size bank' size' offset' then value
      else mem.banked bank' size' offset' := by
  unfold banked
  rw [dif_pos h, dif_pos (by rwa [size_setBanked])]
  simp only [setBanked, dif_pos h, Array.size_set, Array.getElem_set]

end Memory

end NesCartridge
