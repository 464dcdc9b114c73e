/-
  NesCartridge.Proofs.BitField

  Bytes and their fields. A bank number that fits a register comes back from it unchanged
  (`ofNat_and_of_lt`), and a latch field holds what was put into it whatever the other fields hold
  (`BitField.extract_insert`, `BitField.extract_insert_of_disjoint`). What a field holds and the
  bits outside it make up the latch (`BitField.eq_of_extract_eq`), so fields obey the laws of
  lenses.
-/
import Mathlib.Algebra.Group.Nat.Defs
import NesCartridge.Registry.BitField

namespace NesCartridge

/-! ## Numbers in a byte -/

/-- A property of all bytes, checked value by value. -/
theorem forall_byte {P : UInt8 → Prop} (h : ∀ n < 256, P (UInt8.ofNat n)) (byte : UInt8) :
    P byte := by
  have hbyte := h byte.toNat byte.toNat_lt
  rwa [UInt8.ofNat_toNat] at hbyte

theorem toNat_ofNat_of_le {number : Nat} (h : number ≤ 255) : (UInt8.ofNat number).toNat = number :=
  UInt8.toNat_ofNat_of_lt' (Nat.lt_succ_of_le h)

/-- A register of `bits` bits takes a number below `2 ^ bits` whole. -/
theorem ofNat_and_of_lt (bits : Nat) {number : Nat} {mask : UInt8} (hnumber : number < 2 ^ bits)
    (hbits : bits ≤ 8) (hmask : mask.toNat = 2 ^ bits - 1) :
    UInt8.ofNat number &&& mask = UInt8.ofNat number := by
  have hsmall : number < 256 :=
    Nat.lt_of_lt_of_le hnumber (Nat.pow_le_pow_right (by omega) hbits)
  apply UInt8.toNat_inj.mp
  rw [UInt8.toNat_and, hmask, Nat.and_two_pow_sub_one_eq_mod, UInt8.toNat_ofNat_of_lt' hsmall]
  exact Nat.mod_eq_of_lt hnumber

theorem or_and_distrib (x y mask : UInt8) : (x ||| y) &&& mask = (x &&& mask) ||| (y &&& mask) := by
  apply UInt8.toNat_inj.mp
  rw [UInt8.toNat_and, UInt8.toNat_or, UInt8.toNat_or, UInt8.toNat_and, UInt8.toNat_and]
  exact Nat.and_or_distrib_right ..

/-! ## Fields of a latch -/

namespace BitField

/-- A byte has no bits past the eighth. -/
theorem testBit_toNat_of_le (byte : UInt8) {i : Nat} (h : 8 ≤ i) :
    byte.toNat.testBit i = false := by
  have hlt : byte.toNat < 2 ^ i :=
    Nat.lt_of_lt_of_le byte.toNat_lt (Nat.pow_le_pow_right (by omega) h)
  exact Nat.testBit_lt_two_pow hlt

theorem toNat_extract (field : BitField) (latch : UInt8) :
    (field.extract latch).toNat = (latch.toNat &&& field.mask.toNat) >>> field.shift := by
  have hlt : (latch &&& field.mask).toNat >>> field.shift < 256 :=
    Nat.lt_of_le_of_lt (Nat.shiftRight_le _ _) (UInt8.toNat_lt _)
  rw [extract, UInt8.toNat_ofNat_of_lt' hlt, UInt8.toNat_and]

theorem toNat_max (field : BitField) : field.max.toNat = field.mask.toNat >>> field.shift := by
  have hlt : field.mask.toNat >>> field.shift < 256 :=
    Nat.lt_of_le_of_lt (Nat.shiftRight_le _ _) (UInt8.toNat_lt _)
  rw [max, UInt8.toNat_ofNat_of_lt' hlt]

/-- Inside a field the latch has the bits of the value, shifted up. -/
theorem insert_and_mask (field : BitField) (latch value : UInt8) :
    field.insert latch value &&& field.mask =
      UInt8.ofNat (value.toNat <<< field.shift) &&& field.mask := by
  rw [insert, or_and_distrib, UInt8.and_assoc, UInt8.not_and_self, UInt8.and_zero,
    UInt8.zero_or, UInt8.and_assoc, UInt8.and_self]

/-- Outside a field the latch keeps its bits. -/
theorem insert_and_of_disjoint (field : BitField) (latch value : UInt8) {mask : UInt8}
    (h : field.mask &&& mask = 0) : field.insert latch value &&& mask = latch &&& mask := by
  have hnot : ~~~field.mask &&& mask = mask := by
    calc ~~~field.mask &&& mask = (~~~field.mask &&& mask) ||| (field.mask &&& mask) := by
          rw [h, UInt8.or_zero]
      _ = (~~~field.mask ||| field.mask) &&& mask := (or_and_distrib ..).symm
      _ = mask := by rw [UInt8.not_or_self, UInt8.neg_one_and]
  rw [insert, or_and_distrib, UInt8.and_assoc, hnot, UInt8.and_assoc, h, UInt8.and_zero,
    UInt8.or_zero]

/-- A field gives back what was put into it, less the bits that it has no room for. -/
theorem extract_insert (field : BitField) (latch value : UInt8) :
    field.extract (field.insert latch value) = value &&& field.max := by
  apply UInt8.toNat_inj.mp
  rw [extract, insert_and_mask, ← extract, toNat_extract, UInt8.toNat_and, toNat_max]
  apply Nat.eq_of_testBit_eq
  intro i
  rw [Nat.testBit_shiftRight, Nat.testBit_and, Nat.testBit_and, Nat.testBit_shiftRight]
  -- Past the eighth bit the mask has none.
  by_cases hi : field.shift + i < 8
  · have hvalue : (UInt8.ofNat (value.toNat <<< field.shift)).toNat.testBit (field.shift + i) =
        value.toNat.testBit i := by
      show (value.toNat <<< field.shift % 2 ^ 8).testBit (field.shift + i) = _
      rw [Nat.testBit_mod_two_pow, Nat.testBit_shiftLeft]
      simp [hi]
    rw [hvalue]
  · rw [testBit_toNat_of_le field.mask (Nat.le_of_not_lt hi), Bool.and_false, Bool.and_false]

/-- Writing one field leaves another as it is. -/
theorem extract_insert_of_disjoint (field other : BitField) (latch value : UInt8)
    (h : field.mask &&& other.mask = 0) :
    other.extract (field.insert latch value) = other.extract latch := by
  rw [extract, extract, insert_and_of_disjoint field latch value h]

/-- What a field holds has room in it. -/
theorem extract_and_max (field : BitField) (latch : UInt8) :
    field.extract latch &&& field.max = field.extract latch := by
  apply UInt8.toNat_inj.mp
  rw [UInt8.toNat_and, toNat_extract, toNat_max, ← Nat.shiftRight_and_distrib, Nat.and_assoc,
    Nat.and_self]

/-! ## Fields bit by bit -/

theorem testBit_not (byte : UInt8) {i : Nat} (h : i < 8) :
    (~~~byte).toNat.testBit i = !byte.toNat.testBit i := by
  have hbits : (~~~byte.toBitVec).getLsbD i = (decide (i < 8) && !byte.toBitVec.getLsbD i) :=
    BitVec.getLsbD_not
  rw [decide_eq_true h, Bool.true_and] at hbits
  exact hbits

/-- Below its position a field has no bit. -/
theorem testBit_mask_of_lt_shift (field : BitField) {i : Nat} (h : i < field.shift) :
    field.mask.toNat.testBit i = false := by
  cases hfind : (List.range 8).find? field.mask.toNat.testBit with
  | none =>
    by_cases hi : i < 8
    · have hnone := List.find?_eq_none.mp hfind i (List.mem_range.mpr hi)
      exact Bool.eq_false_iff.mpr hnone
    · exact testBit_toNat_of_le field.mask (Nat.le_of_not_lt hi)
  | some position =>
    rw [shift, hfind, Option.getD_some] at h
    have hbefore := (List.find?_range_eq_some.mp hfind).2.2 i h
    exact (Bool.not_eq_true' _).mp hbefore

/-- A bit outside the field stays as it is when the field is written. -/
theorem testBit_insert_of_outside (field : BitField) (latch value : UInt8) {i : Nat}
    (h : field.mask.toNat.testBit i = false) :
    (field.insert latch value).toNat.testBit i = latch.toNat.testBit i := by
  by_cases hi : i < 8
  · have hkeep := insert_and_of_disjoint field latch value UInt8.and_not_self
    have hbit := congrArg (fun byte => byte.toNat.testBit i) hkeep
    have hnot := testBit_not field.mask hi
    simp only [UInt8.toNat_and, Nat.testBit_and, hnot, h, Bool.not_false, Bool.and_true] at hbit
    exact hbit
  · rw [testBit_toNat_of_le _ (Nat.le_of_not_lt hi), testBit_toNat_of_le _ (Nat.le_of_not_lt hi)]

/-- Latches in which the field holds the same value agree in its bits. -/
theorem testBit_eq_of_extract_eq {field : BitField} {one other : UInt8}
    (h : field.extract one = field.extract other) {i : Nat}
    (hi : field.mask.toNat.testBit i = true) : one.toNat.testBit i = other.toNat.testBit i := by
  -- No bit of the field is lost when its value is shifted down.
  have hshift : field.shift ≤ i := Nat.le_of_not_lt fun hlt => by
    rw [testBit_mask_of_lt_shift field hlt] at hi
    cases hi
  have hvalues := congrArg UInt8.toNat h
  rw [toNat_extract, toNat_extract] at hvalues
  have hbits := congrArg (fun value => value.testBit (i - field.shift)) hvalues
  simp only [Nat.testBit_shiftRight, Nat.testBit_and, Nat.add_sub_cancel' hshift, hi,
    Bool.and_true] at hbits
  exact hbits

/-- Latches that agree in what the field holds and in all other bits are the same. -/
theorem eq_of_extract_eq (field : BitField) {one other : UInt8}
    (hinside : field.extract one = field.extract other)
    (houtside : ∀ i, field.mask.toNat.testBit i = false →
      one.toNat.testBit i = other.toNat.testBit i) : one = other := by
  apply UInt8.toNat_inj.mp
  apply Nat.eq_of_testBit_eq
  intro i
  cases hi : field.mask.toNat.testBit i with
  | false => exact houtside i hi
  | true => exact testBit_eq_of_extract_eq hinside hi

/-! ## Laws of lenses -/

/-- Putting back what the field holds changes nothing. -/
theorem insert_extract (field : BitField) (latch : UInt8) :
    field.insert latch (field.extract latch) = latch := by
  refine field.eq_of_extract_eq ?_ fun i hi => testBit_insert_of_outside field latch _ hi
  rw [extract_insert, extract_and_max]

/-- The second of two values put into a field is what counts. -/
theorem insert_insert (field : BitField) (latch first second : UInt8) :
    field.insert (field.insert latch first) second = field.insert latch second := by
  refine field.eq_of_extract_eq ?_ fun i hi => ?_
  · rw [extract_insert, extract_insert]
  · rw [testBit_insert_of_outside field _ _ hi, testBit_insert_of_outside field _ _ hi,
      testBit_insert_of_outside field _ _ hi]

/-- Fields that share no bit may be written in either order. -/
theorem insert_comm {field other : BitField} (h : field.mask &&& other.mask = 0)
    (latch value more : UInt8) :
    field.insert (other.insert latch more) value =
      other.insert (field.insert latch value) more := by
  have hsymm : other.mask &&& field.mask = 0 := UInt8.and_comm .. ▸ h
  refine field.eq_of_extract_eq ?_ fun i hi => ?_
  · rw [extract_insert, extract_insert_of_disjoint _ _ _ _ hsymm, extract_insert]
  · rw [testBit_insert_of_outside field _ _ hi]
    cases hother : other.mask.toNat.testBit i with
    | false =>
      rw [testBit_insert_of_outside other _ _ hother, testBit_insert_of_outside other _ _ hother,
        testBit_insert_of_outside field _ _ hi]
    | true =>
      refine testBit_eq_of_extract_eq ?_ hother
      rw [extract_insert, extract_insert]

end BitField

end NesCartridge
