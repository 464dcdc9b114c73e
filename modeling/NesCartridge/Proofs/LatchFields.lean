/-
  NesCartridge.Proofs.LatchFields

  The fields of one latch. Fields that share no bit do not disturb each other, however often and in
  whatever order values are put into them: each ends up with the last of its own values, cut to its
  width, and the bits outside all of them never move (`latch_fields_are_lenses`). On the discrete
  boards this is why an accepted request may send the whole latch again: the byte differs from the
  one before in the field that the request is about (`Request.latchByte_of_answers`).
-/
import Mathlib.Data.List.Induction
import Mathlib.Data.List.Pairwise
import NesCartridge.Proofs.Chip.Discrete
import NesCartridge.Proofs.Script

namespace NesCartridge

/-- A value on its way into a field of a latch. -/
structure FieldInsert where
  field : BitField
  value : UInt8
  deriving DecidableEq

namespace FieldInsert

/-- The latch after a value has been put into a field. -/
def perform (latch : UInt8) (insert : FieldInsert) : UInt8 :=
  insert.field.insert latch insert.value

/-- The latch after some values have been put into fields, one after the other. -/
def run (latch : UInt8) (inserts : List FieldInsert) : UInt8 :=
  inserts.foldl perform latch

theorem run_append (latch : UInt8) (inserts : List FieldInsert) (insert : FieldInsert) :
    run latch (inserts ++ [insert]) = insert.field.insert (run latch inserts) insert.value := by
  rw [run, List.foldl_append]
  rfl

/-- The value last put into a field. -/
def last? (inserts : List FieldInsert) (field : BitField) : Option UInt8 :=
  latest? (fun insert => if insert.field = field then some insert.value else none) inserts

/-- No two of the fields share a bit. -/
def Apart (fields : List BitField) : Prop :=
  fields.Pairwise fun field other => field.mask &&& other.mask = 0

instance : DecidablePred Apart :=
  fun fields => inferInstanceAs (Decidable (fields.Pairwise _))

/-- Every value goes into one of the fields. -/
def Into (fields : List BitField) (inserts : List FieldInsert) : Prop :=
  ∀ insert ∈ inserts, insert.field ∈ fields

instance (fields : List BitField) : DecidablePred (Into fields) :=
  fun inserts => inferInstanceAs (Decidable (∀ insert ∈ inserts, insert.field ∈ fields))

/-! ## Fields that are apart -/

variable {fields : List BitField} {inserts : List FieldInsert} {start : UInt8}

theorem Apart.disjoint (h : Apart fields) {field other : BitField} (hfield : field ∈ fields)
    (hother : other ∈ fields) (hne : field ≠ other) : field.mask &&& other.mask = 0 := by
  have hsymm : Std.Symm fun field other : BitField => field.mask &&& other.mask = 0 :=
    ⟨fun field other hapart => UInt8.and_comm .. ▸ hapart⟩
  exact List.Pairwise.forall h hfield hother hne

theorem Into.init {insert : FieldInsert} (h : Into fields (inserts ++ [insert])) :
    Into fields inserts ∧ insert.field ∈ fields :=
  ⟨fun earlier hmem => h earlier (List.mem_append_left _ hmem),
    h insert (List.mem_append_right _ (List.mem_singleton_self insert))⟩

/-- Each field holds the last of its own values, cut to its width, or what it held at the start. -/
theorem extract_run (hapart : Apart fields) (hinto : Into fields inserts) {field : BitField}
    (hfield : field ∈ fields) :
    field.extract (run start inserts) =
      (last? inserts field).elim (field.extract start) (· &&& field.max) := by
  -- The last value goes into this field or into one that is apart from it.
  induction inserts using List.reverseRecOn with
  | nil => rfl
  | append_singleton earlier insert ih =>
    obtain ⟨hearlier, hlast⟩ := hinto.init
    rw [run_append, last?, latest?_append]
    by_cases hsame : insert.field = field
    · rw [if_pos hsame, hsame, BitField.extract_insert]
      rfl
    · rw [if_neg hsame, BitField.extract_insert_of_disjoint _ _ _ _
        (hapart.disjoint hlast hfield hsame), ih hearlier]
      rfl

/-- A bit outside all fields never moves. -/
theorem testBit_run (hinto : Into fields inserts) {i : Nat}
    (hi : ∀ field ∈ fields, field.mask.toNat.testBit i = false) :
    (run start inserts).toNat.testBit i = start.toNat.testBit i := by
  induction inserts using List.reverseRecOn with
  | nil => rfl
  | append_singleton earlier insert ih =>
    obtain ⟨hearlier, hlast⟩ := hinto.init
    rw [run_append, BitField.testBit_insert_of_outside _ _ _ (hi insert.field hlast), ih hearlier]

/-- Only the last value of each field counts. -/
theorem run_eq_of_last (hapart : Apart fields) (hinto : Into fields inserts)
    {others : List FieldInsert} (hothers : Into fields others)
    (hlast : ∀ field ∈ fields, field.isPresent = true →
      last? others field = last? inserts field) :
    run start others = run start inserts := by
  apply UInt8.toNat_inj.mp
  apply Nat.eq_of_testBit_eq
  intro i
  by_cases hi : ∃ field ∈ fields, field.mask.toNat.testBit i = true
  · -- A field with a bit in it is present, so it was given the same value last.
    obtain ⟨field, hfield, hbit⟩ := hi
    refine BitField.testBit_eq_of_extract_eq ?_ hbit
    have hpresent : field.isPresent = true := by
      rw [BitField.isPresent, bne_iff_ne]
      intro hzero
      rw [hzero] at hbit
      exact absurd hbit (by simp)
    rw [extract_run hapart hothers hfield, extract_run hapart hinto hfield,
      hlast field hfield hpresent]
  · have hout : ∀ field ∈ fields, field.mask.toNat.testBit i = false :=
      fun field hfield => Bool.eq_false_iff.mpr fun hbit => hi ⟨field, hfield, hbit⟩
    rw [testBit_run hothers hout, testBit_run hinto hout]

end FieldInsert

/-- Values put into fields that are apart: each field holds the last of its own, cut to its width,
and one that was given none holds what it held; the bits outside all fields stay; inserts with the
same last value for every field leave the same latch, in whatever order they come; and a field that
is given what it holds leaves the latch as it is. -/
theorem latch_fields_are_lenses (fields : List BitField) (hapart : FieldInsert.Apart fields)
    (start : UInt8) (inserts : List FieldInsert) (hinto : FieldInsert.Into fields inserts) :
    (∀ field ∈ fields, field.extract (FieldInsert.run start inserts) =
      match FieldInsert.last? inserts field with
      | some value => value &&& field.max
      | none => field.extract start) ∧
      (∀ i, (∀ field ∈ fields, field.mask.toNat.testBit i = false) →
        (FieldInsert.run start inserts).toNat.testBit i = start.toNat.testBit i) ∧
      (∀ others, FieldInsert.Into fields others →
        (∀ field ∈ fields, field.isPresent = true →
          FieldInsert.last? others field = FieldInsert.last? inserts field) →
          FieldInsert.run start others = FieldInsert.run start inserts) ∧
      ∀ (field : BitField) latch, field.insert latch (field.extract latch) = latch := by
  refine ⟨fun field hfield => ?_, fun i => FieldInsert.testBit_run hinto,
    fun others hothers => FieldInsert.run_eq_of_last hapart hinto hothers, BitField.insert_extract⟩
  rw [FieldInsert.extract_run hapart hinto hfield]
  cases FieldInsert.last? inserts field with
  | none => rfl
  | some value => rfl

/-- Two fields with gaps and one without bits: the value put in first is lost, the other is cut to
the bits 4 and 6, and bit 7 stays. -/
theorem latch_fields_are_lenses_gaps :
    let low : BitField := ⟨0x25⟩
    let high : BitField := ⟨0x50⟩
    let fields := [low, .absent, high]
    let inserts : List FieldInsert := [⟨low, 0xFF⟩, ⟨high, 0x07⟩, ⟨.absent, 0x33⟩, ⟨low, 0x06⟩]
    let latch := FieldInsert.run 0xAE inserts
    FieldInsert.Apart fields ∧ FieldInsert.Into fields inserts ∧
      low.extract latch = 0x04 ∧ high.extract latch = 0x05 ∧ latch.toNat.testBit 7 = true ∧
        FieldInsert.run 0xAE [⟨high, 0x07⟩, ⟨low, 0x06⟩] = latch := by
  intro low high fields inserts latch
  have hapart : FieldInsert.Apart fields := by decide
  have hinto : FieldInsert.Into fields inserts := by decide
  obtain ⟨hvalues, hbits, hlast, -⟩ := latch_fields_are_lenses fields hapart 0xAE inserts hinto
  exact ⟨hapart, hinto, (hvalues low (by decide)).trans (by decide),
    (hvalues high (by decide)).trans (by decide), hbits 7 (by decide),
    hlast _ (by decide) (by decide)⟩

/-! ## The latch of a board -/

/-- What a request puts into which field of a latch. -/
def Request.fieldInsert? (layout : LatchLayout) : Request → Option FieldInsert
  | .selectPrg _ bank => some ⟨layout.prg, UInt8.ofNat bank⟩
  | .selectChr _ bank => some ⟨layout.chr, UInt8.ofNat bank⟩
  | .setMirroring mode => some ⟨layout.screen, if mode = .oneScreenUpper then 1 else 0⟩
  | _ => none

/-- On a board that is up, an accepted request changes one field of the latch byte. -/
theorem Request.latchByte_of_answers {board : Board} {layout : LatchLayout}
    (hlayout : board.descriptor.latch = some layout) {current after : Shadow}
    (hfits : current.Fits board) {req : Request} {writes : List RegisterWrite}
    (hans : board.Answers current req after writes) (hup : req ≠ .bringUp) :
    ∃ insert, req.fieldInsert? layout = some insert ∧
      after.latchByte layout = insert.field.insert (current.latchByte layout) insert.value := by
  obtain ⟨hprgchr, hprgscreen, hchrscreen⟩ := Discrete.fields_disjoint hlayout
  have hchrprg : layout.chr.mask &&& layout.prg.mask = 0 := UInt8.and_comm .. ▸ hprgchr
  have hscreenprg : layout.screen.mask &&& layout.prg.mask = 0 := UInt8.and_comm .. ▸ hprgscreen
  have hscreenchr : layout.screen.mask &&& layout.chr.mask = 0 := UInt8.and_comm .. ▸ hchrscreen
  obtain ⟨hwram, hirq⟩ := Discrete.features_eq hlayout
  -- The field that is written last is brought to its place among the others.
  cases hans with
  | bringUp => exact absurd rfl hup
  | @selectPrg number bank window hwindow =>
    have hbank := hfits.prgBank_setPrg hwindow bank 0
    rw [if_pos (Discrete.prgWindow_eq hlayout hwindow).1.symm] at hbank
    refine ⟨_, rfl, ?_⟩
    rw [Shadow.latchByte, hbank]
    exact (BitField.insert_insert ..).symm
  | @selectChr number bank window hwindow =>
    have hbank := hfits.chrBank_setChr hwindow bank 0
    rw [if_pos (Discrete.chrWindow_eq hlayout hwindow).1.symm] at hbank
    refine ⟨_, rfl, ?_⟩
    rw [Shadow.latchByte, Shadow.latchByte, hbank]
    dsimp only
    rw [BitField.insert_comm hchrprg, BitField.insert_insert]
    rfl
  | setMirroring =>
    refine ⟨_, rfl, ?_⟩
    rw [Shadow.latchByte, Shadow.latchByte]
    dsimp only
    rw [BitField.insert_comm hscreenprg, BitField.insert_comm hscreenchr, BitField.insert_insert]
    rfl
  | setWram hmode =>
    rw [hwram] at hmode
    cases hmode
  | configureIrq hcounter | acknowledgeIrq hcounter =>
    rw [hirq] at hcounter
    cases hcounter

end NesCartridge
