/-
  NesCartridge.Proofs.HeaderEncoding

  Reading a header against writing one. `Nes2Fields.encode` puts the fields of a NES 2.0 header at
  their places and leaves the other bits to whoever writes the file; reading gives the fields back
  and sees nothing else. An iNES header is read from its first eight bytes alone. So two headers
  read alike exactly if they are of one dialect and agree on the bits that carry a field
  (`Header.Carries`). Main statement: `header_parse_inverts_encoding`.
-/
import NesCartridge.Proofs.FileLoading

namespace NesCartridge

/-! ## NES 2.0 headers -/

/-- The fields of a NES 2.0 header, each within the bits that it has. -/
structure Nes2Fields where
  mapper : Fin 0x1000
  submapper : Fin 16
  /-- PRG memory in units of 16 KiB. -/
  prgUnits : Fin 0x1000
  /-- CHR ROM in units of 8 KiB. -/
  chrUnits : Fin 0x1000
  chrRamShift : Fin 16
  vertical : Bool
  battery : Bool
  trainer : Bool
  fourScreen : Bool

namespace Nes2Fields

/-- The low half of byte 6. -/
def flags (fields : Nes2Fields) : Nat :=
  fields.vertical.toNat + 2 * fields.battery.toNat + 4 * fields.trainer.toNat +
    8 * fields.fourScreen.toNat

/-- The byte at a place of the header. The bits that no field uses are taken from `spare`. -/
def byte (fields : Nes2Fields) (spare : Nat → UInt8) : Nat → Nat
  | 0 => 0x4E
  | 1 => 0x45
  | 2 => 0x53
  | 3 => 0x1A
  | 4 => fields.prgUnits % 256
  | 5 => fields.chrUnits % 256
  | 6 => 16 * (fields.mapper % 16) + fields.flags
  -- Bits 2 and 3 mark the dialect.
  | 7 => 16 * (fields.mapper / 16 % 16) + 8 + (spare 7).toNat % 4
  | 8 => 16 * fields.submapper + fields.mapper / 256
  | 9 => 16 * (fields.chrUnits / 256) + fields.prgUnits / 256
  | 11 => 16 * ((spare 11).toNat / 16) + fields.chrRamShift
  | place => (spare place).toNat

def encode (fields : Nes2Fields) (spare : Nat → UInt8) : Memory :=
  ((List.range 16).map fun place => UInt8.ofNat (fields.byte spare place)).toArray

/-- What the header says. -/
def header (fields : Nes2Fields) : Header where
  mapper := fields.mapper
  submapper := fields.submapper
  prgRomSize := fields.prgUnits * 0x4000
  chrRomSize := fields.chrUnits * 0x2000
  chrRamSize := if fields.chrRamShift.val = 0 then 0 else 64 <<< fields.chrRamShift.val
  mirroring :=
    if fields.fourScreen then .fourScreen
    else if fields.vertical then .vertical
    else .horizontal
  hasTrainer := fields.trainer
  hasBattery := fields.battery
  nes2 := true

variable (fields : Nes2Fields) (spare : Nat → UInt8) (rest : Memory)

theorem flags_lt : fields.flags < 16 := by
  have hvertical := fields.vertical.toNat_le
  have hbattery := fields.battery.toNat_le
  have htrainer := fields.trainer.toNat_le
  have hfour := fields.fourScreen.toNat_le
  rw [flags]
  omega

theorem testBit_flags (high : Nat) :
    let flags := 16 * high + fields.flags
    flags.testBit 0 = fields.vertical ∧ flags.testBit 1 = fields.battery ∧
      flags.testBit 2 = fields.trainer ∧ flags.testBit 3 = fields.fourScreen := by
  intro flags
  have hlow : ∀ i < 4, flags.testBit i = fields.flags.testBit i := by
    intro i hi
    have hmod : flags % 2 ^ 4 = fields.flags % 2 ^ 4 := Nat.mul_add_mod ..
    have hbit : (flags % 2 ^ 4).testBit i = (fields.flags % 2 ^ 4).testBit i := by rw [hmod]
    rwa [Nat.testBit_mod_two_pow, Nat.testBit_mod_two_pow, decide_eq_true hi, Bool.true_and,
      Bool.true_and] at hbit
  rw [hlow 0 (by decide), hlow 1 (by decide), hlow 2 (by decide), hlow 3 (by decide)]
  rw [Nes2Fields.flags]
  cases fields.vertical <;> cases fields.battery <;> cases fields.trainer <;>
    cases fields.fourScreen <;> decide

theorem byte_lt (place : Nat) : fields.byte spare place < 256 := by
  have hflags := fields.flags_lt
  have hmapper := fields.mapper.isLt
  have hsubmapper := fields.submapper.isLt
  have hprg := fields.prgUnits.isLt
  have hchr := fields.chrUnits.isLt
  have hshift := fields.chrRamShift.isLt
  have hspare := (spare 11).toNat_lt
  unfold byte
  split
  case h_12 => exact (spare place).toNat_lt
  all_goals omega

theorem size_encode : (fields.encode spare).size = 16 := by
  rw [encode, List.size_toArray, List.length_map, List.length_range]

theorem byte_encode {place : Nat} (hplace : place < 16) :
    CartridgeFile.byte (fields.encode spare ++ rest) place = fields.byte spare place := by
  have hsize := fields.size_encode spare
  rw [CartridgeFile.byte, Header.getD_append rest (by omega), Array.getD_eq_getD_getElem?, encode,
    List.getElem?_toArray, List.getElem?_map, List.getElem?_range hplace]
  exact UInt8.toNat_ofNat_of_lt' (fields.byte_lt spare place)

theorem signed_encode : CartridgeFile.Signed (fields.encode spare ++ rest) := by
  refine ⟨?_, ?_, ?_, ?_⟩
  all_goals rw [byte_encode _ _ _ (by decide)]; rfl

theorem isNes2_encode : CartridgeFile.isNes2 (fields.encode spare ++ rest) = true := by
  rw [CartridgeFile.isNes2, byte_encode _ _ _ (by decide), byte, beq_iff_eq]
  omega

/-- Every field is read from its places. -/
theorem header_encode : CartridgeFile.header (fields.encode spare ++ rest) = fields.header := by
  have hbyte : ∀ place < 16,
      CartridgeFile.byte (fields.encode spare ++ rest) place = fields.byte spare place :=
    fun place hplace => fields.byte_encode spare rest hplace
  obtain ⟨hvertical, hbattery, htrainer, hfour⟩ := fields.testBit_flags (fields.mapper % 16)
  have hflags := fields.flags_lt
  have hmapper := fields.mapper.isLt
  have hsubmapper := fields.submapper.isLt
  have hprg := fields.prgUnits.isLt
  have hchr := fields.chrUnits.isLt
  have hshift : fields.byte spare 11 % 16 = fields.chrRamShift := by
    rw [byte, Nat.mul_add_mod]
    exact Nat.mod_eq_of_lt fields.chrRamShift.isLt
  simp only [CartridgeFile.header, CartridgeFile.extra, fields.isNes2_encode spare rest, if_true,
    hbyte 4 (by decide), hbyte 5 (by decide), hbyte 6 (by decide), hbyte 7 (by decide),
    hbyte 8 (by decide), hbyte 9 (by decide), hbyte 11 (by decide), hshift, header,
    ← CartridgeFile.chrRamOf_eq, Header.chrRamOf]
  simp only [byte, hvertical, hbattery, htrainer, hfour]
  congr 1 <;> omega

theorem parse_encode :
    Header.parse (fields.encode spare ++ rest) = .ok fields.header := by
  have hsize := fields.size_encode spare
  rw [CartridgeFile.parse_of_signed (by rw [Array.size_append]; omega)
    (fields.signed_encode spare rest), header_encode]

end Nes2Fields

/-! ## Bits that carry a field -/

/-- The bits of a header that a field is read from, by byte and by place in the byte. -/
inductive Header.Carries (nes2 fourScreen : Bool) : (place bit : Nat) → Prop
  | prgUnits (bit : Nat) : Carries nes2 fourScreen 4 bit
  | chrUnits (bit : Nat) : Carries nes2 fourScreen 5 bit
  /-- With memory for four screens there is nothing left to arrange. -/
  | vertical (h : fourScreen = false) : Carries nes2 fourScreen 6 0
  | battery : Carries nes2 fourScreen 6 1
  | trainer : Carries nes2 fourScreen 6 2
  | fourScreen : Carries nes2 fourScreen 6 3
  | mapperLow {bit : Nat} (h : 4 ≤ bit) : Carries nes2 fourScreen 6 bit
  | mapperMiddle {bit : Nat} (h : 4 ≤ bit) : Carries nes2 fourScreen 7 bit
  | mapperHigh (hnes2 : nes2 = true) {bit : Nat} (h : bit < 4) : Carries nes2 fourScreen 8 bit
  | submapper (hnes2 : nes2 = true) {bit : Nat} (h : 4 ≤ bit) : Carries nes2 fourScreen 8 bit
  | prgUnitsHigh (hnes2 : nes2 = true) {bit : Nat} (h : bit < 4) : Carries nes2 fourScreen 9 bit
  | chrUnitsHigh (hnes2 : nes2 = true) {bit : Nat} (h : 4 ≤ bit) : Carries nes2 fourScreen 9 bit
  | chrRamShift (hnes2 : nes2 = true) {bit : Nat} (h : bit < 4) : Carries nes2 fourScreen 11 bit

theorem low_half_eq_iff (v w : Nat) :
    v % 16 = w % 16 ↔ ∀ bit < 4, v.testBit bit = w.testBit bit := by
  have htestBit : ∀ n bit : Nat, (n % 16).testBit bit = (decide (bit < 4) && n.testBit bit) :=
    fun n bit => Nat.testBit_mod_two_pow n 4 bit
  constructor
  · intro heq bit hbit
    have hsame : (v % 16).testBit bit = (w % 16).testBit bit := by rw [heq]
    rwa [htestBit, htestBit, decide_eq_true hbit, Bool.true_and, Bool.true_and] at hsame
  · intro hbits
    apply Nat.eq_of_testBit_eq
    intro bit
    rw [htestBit, htestBit]
    by_cases hbit : bit < 4
    · rw [hbits bit hbit]
    · rw [decide_eq_false hbit, Bool.false_and, Bool.false_and]

theorem high_half_eq_iff (v w : Nat) :
    v / 16 = w / 16 ↔ ∀ bit, 4 ≤ bit → v.testBit bit = w.testBit bit := by
  have htestBit : ∀ n bit : Nat, (n / 16).testBit bit = n.testBit (bit + 4) :=
    fun n bit => Nat.testBit_div_two_pow (n := 4) n bit
  constructor
  · intro heq bit hbit
    have hsame : (v / 16).testBit (bit - 4) = (w / 16).testBit (bit - 4) := by rw [heq]
    rwa [htestBit, htestBit, Nat.sub_add_cancel hbit] at hsame
  · intro hbits
    apply Nat.eq_of_testBit_eq
    intro bit
    rw [htestBit, htestBit]
    exact hbits _ (Nat.le_add_left 4 bit)

theorem Header.chrRamOf_inj {shift other : Nat} (hshift : shift < 16) (hother : other < 16) :
    chrRamOf shift = chrRamOf other ↔ shift = other := by
  have hall : ∀ shift other : Fin 16, chrRamOf shift = chrRamOf other → shift = other := by decide
  refine ⟨fun heq => ?_, congrArg chrRamOf⟩
  exact Fin.val_eq_of_eq (hall ⟨shift, hshift⟩ ⟨other, hother⟩ heq)

namespace CartridgeFile

variable {data other : Memory}

/-- The flags of byte 6 that are read alike: with memory for four screens the mirroring bit has no
part in it. -/
def SameFlags (data other : Memory) : Prop :=
  (byte data 6).testBit 1 = (byte other 6).testBit 1 ∧
    (byte data 6).testBit 2 = (byte other 6).testBit 2 ∧
    (byte data 6).testBit 3 = (byte other 6).testBit 3 ∧
    ((byte data 6).testBit 3 = false → (byte data 6).testBit 0 = (byte other 6).testBit 0)

theorem mirroring_eq_iff (four vertical four' vertical' : Bool) :
    (if four then Mirroring.fourScreen else if vertical then .vertical else .horizontal) =
        (if four' then Mirroring.fourScreen else if vertical' then .vertical else .horizontal) ↔
      four = four' ∧ (four = false → vertical = vertical') := by
  cases four <;> cases vertical <;> cases four' <;> cases vertical' <;> decide

/-- Headers are read alike if the numbers are equal that the dialect has places for. -/
theorem header_eq_iff_numbers :
    header data = header other ↔
      isNes2 data = isNes2 other ∧ SameFlags data other ∧
        byte data 4 = byte other 4 ∧ byte data 5 = byte other 5 ∧
        byte data 6 / 16 = byte other 6 / 16 ∧ byte data 7 / 16 = byte other 7 / 16 ∧
        (isNes2 data = true → byte data 8 = byte other 8 ∧ byte data 9 = byte other 9 ∧
          byte data 11 % 16 = byte other 11 % 16) := by
  have hlt : ∀ (file : Memory) (place : Nat), byte file place < 256 :=
    fun file place => UInt8.toNat_lt _
  have h4 := hlt data 4
  have h4' := hlt other 4
  have h5 := hlt data 5
  have h5' := hlt other 5
  have h6 := hlt data 6
  have h6' := hlt other 6
  have h7 := hlt data 7
  have h7' := hlt other 7
  simp only [header, Header.mk.injEq, mirroring_eq_iff, ← chrRamOf_eq, SameFlags]
  constructor
  · rintro ⟨hmapper, hsub, hprg, hchr, hram, ⟨hfour, hvertical⟩, htrainer, hbattery, hnes2⟩
    cases hdialect : isNes2 data with
    | false =>
      have hdialect' : isNes2 other = false := hnes2.symm.trans hdialect
      simp only [extra, hdialect, hdialect', Bool.false_eq_true, if_false] at hmapper hprg hchr
      refine ⟨hdialect'.symm, ⟨hbattery, htrainer, hfour, hvertical⟩, ?_, ?_, ?_, ?_,
        fun h => by cases h⟩
      all_goals omega
    | true =>
      have hdialect' : isNes2 other = true := hnes2.symm.trans hdialect
      simp only [extra, hdialect, hdialect', if_true] at hmapper hsub hprg hchr hram
      rw [Header.chrRamOf_inj (Nat.mod_lt _ (by decide)) (Nat.mod_lt _ (by decide))] at hram
      refine ⟨hdialect'.symm, ⟨hbattery, htrainer, hfour, hvertical⟩, ?_, ?_, ?_, ?_,
        fun _ => ⟨?_, ?_, hram⟩⟩
      all_goals omega
  · rintro ⟨hnes2, ⟨hbattery, htrainer, hfour, hvertical⟩, hprg, hchr, hlow, hmiddle, hhigh⟩
    cases hdialect : isNes2 data with
    | false =>
      have hdialect' : isNes2 other = false := hnes2.symm.trans hdialect
      simp only [extra, hdialect, hdialect', Bool.false_eq_true, if_false, hlow, hmiddle, hprg,
        hchr, htrainer, hbattery, true_and, and_true]
      exact ⟨hfour, hvertical⟩
    | true =>
      have hdialect' : isNes2 other = true := hnes2.symm.trans hdialect
      obtain ⟨h8, h9, h11⟩ := hhigh hdialect
      simp only [extra, hdialect, hdialect', if_true, hlow, hmiddle, hprg, hchr, h8, h9, h11,
        htrainer, hbattery, true_and, and_true]
      exact ⟨hfour, hvertical⟩

theorem header_eq_iff :
    header data = header other ↔
      isNes2 data = isNes2 other ∧
        ∀ place bit, Header.Carries (isNes2 data) ((byte data 6).testBit 3) place bit →
          (byte data place).testBit bit = (byte other place).testBit bit := by
  rw [header_eq_iff_numbers]
  constructor
  · rintro ⟨hnes2, ⟨hbattery, htrainer, hfour, hvertical⟩, hprg, hchr, hlow, hmiddle, hhigh⟩
    refine ⟨hnes2, fun place bit hcarries => ?_⟩
    cases hcarries with
    | prgUnits => rw [hprg]
    | chrUnits => rw [hchr]
    | vertical h => exact hvertical h
    | battery => exact hbattery
    | trainer => exact htrainer
    | fourScreen => exact hfour
    | mapperLow h => exact (high_half_eq_iff ..).mp hlow bit h
    | mapperMiddle h => exact (high_half_eq_iff ..).mp hmiddle bit h
    | mapperHigh h | submapper h => rw [(hhigh h).1]
    | prgUnitsHigh h | chrUnitsHigh h => rw [(hhigh h).2.1]
    | chrRamShift h hbit => exact (low_half_eq_iff ..).mp (hhigh h).2.2 bit hbit
  · rintro ⟨hnes2, hbits⟩
    -- A byte whose halves both carry fields is the same as a whole.
    have hwhole : ∀ {v w : Nat}, (∀ bit < 4, v.testBit bit = w.testBit bit) →
        (∀ bit, 4 ≤ bit → v.testBit bit = w.testBit bit) → v = w := by
      intro v w hlow hhigh
      have hlow := (low_half_eq_iff v w).mpr hlow
      have hhigh := (high_half_eq_iff v w).mpr hhigh
      omega
    refine ⟨hnes2, ⟨hbits 6 1 .battery, hbits 6 2 .trainer, hbits 6 3 .fourScreen,
      fun h => hbits 6 0 (.vertical h)⟩,
      Nat.eq_of_testBit_eq fun bit => hbits 4 bit (.prgUnits bit),
      Nat.eq_of_testBit_eq fun bit => hbits 5 bit (.chrUnits bit),
      (high_half_eq_iff ..).mpr fun bit h => hbits 6 bit (.mapperLow h),
      (high_half_eq_iff ..).mpr fun bit h => hbits 7 bit (.mapperMiddle h), fun h => ⟨?_, ?_, ?_⟩⟩
    · exact hwhole (fun bit hbit => hbits 8 bit (.mapperHigh h hbit))
        (fun bit hbit => hbits 8 bit (.submapper h hbit))
    · exact hwhole (fun bit hbit => hbits 9 bit (.prgUnitsHigh h hbit))
        (fun bit hbit => hbits 9 bit (.chrUnitsHigh h hbit))
    · exact (low_half_eq_iff ..).mpr fun bit hbit => hbits 11 bit (.chrRamShift h hbit)

/-- An iNES header is read from its first eight bytes, two bits of one of them telling only that it
is one. -/
theorem header_of_ines (h : isNes2 data = false) :
    header data =
      { mapper := byte data 6 / 16 + 16 * (byte data 7 / 16)
        prgRomSize := byte data 4 * 0x4000
        chrRomSize := byte data 5 * 0x2000
        mirroring :=
          if (byte data 6).testBit 3 then .fourScreen
          else if (byte data 6).testBit 0 then .vertical
          else .horizontal
        hasTrainer := (byte data 6).testBit 2
        hasBattery := (byte data 6).testBit 1 } := by
  simp only [header, extra, h, Bool.false_eq_true, if_false, if_true]
  congr 1 <;> omega

end CartridgeFile

open CartridgeFile

/-- A NES 2.0 header that holds some fields is read as those fields, whatever its other bits are and
whatever follows. An iNES header is read from the bytes 4 to 7, whatever comes after them. So two
headers are read as the same exactly if they are of one dialect and agree on every bit that carries
a field of it. -/
theorem header_parse_inverts_encoding :
    (∀ (fields : Nes2Fields) (spare : Nat → UInt8) (rest : Memory),
      Header.parse (fields.encode spare ++ rest) = .ok fields.header) ∧
    (∀ data : Memory, 16 ≤ data.size → Signed data → isNes2 data = false →
      byte data 6 / 16 + 16 * (byte data 7 / 16) < 0x100 ∧
        Header.parse data = .ok
          { mapper := byte data 6 / 16 + 16 * (byte data 7 / 16)
            submapper := 0
            prgRomSize := byte data 4 * 0x4000
            chrRomSize := byte data 5 * 0x2000
            chrRamSize := 0
            mirroring :=
              if (byte data 6).testBit 3 then .fourScreen
              else if (byte data 6).testBit 0 then .vertical
              else .horizontal
            hasTrainer := (byte data 6).testBit 2
            hasBattery := (byte data 6).testBit 1
            nes2 := false }) ∧
    ∀ data other : Memory, 16 ≤ data.size → Signed data → 16 ≤ other.size → Signed other →
      ∃ header header', Header.parse data = .ok header ∧ Header.parse other = .ok header' ∧
        (header = header' ↔
          isNes2 data = isNes2 other ∧
            ∀ place bit, Header.Carries (isNes2 data) ((byte data 6).testBit 3) place bit →
              (byte data place).testBit bit = (byte other place).testBit bit) := by
  refine ⟨Nes2Fields.parse_encode, fun data hlong hsigned hines => ⟨?_, ?_⟩,
    fun data other hlong hsigned hlong' hsigned' => ?_⟩
  · have hlow : byte data 6 < 256 := UInt8.toNat_lt _
    have hmiddle : byte data 7 < 256 := UInt8.toNat_lt _
    omega
  · rw [parse_of_signed hlong hsigned, header_of_ines hines]
  · exact ⟨_, _, parse_of_signed hlong hsigned, parse_of_signed hlong' hsigned', header_eq_iff⟩

/-- An iNES header with every bit set that carries nothing, and one with all of them clear. Four
screens make the mirroring bit one of those. -/
theorem header_parse_inverts_encoding_noisy :
    let noisy : Memory := #[0x4E, 0x45, 0x53, 0x1A, 2, 3, 0x4B, 0x5F, 0xFF, 0xFF, 0xFF, 0xFF, 0xFF,
      0xFF, 0xFF, 0xFF]
    let clean : Memory := #[0x4E, 0x45, 0x53, 0x1A, 2, 3, 0x4A, 0x50, 0, 0, 0, 0, 0, 0, 0, 0]
    Header.parse noisy = .ok
        { mapper := 0x54, prgRomSize := 0x8000, chrRomSize := 0x6000, mirroring := .fourScreen,
          hasBattery := true } ∧
      Header.parse noisy = Header.parse clean := by
  intro noisy clean
  obtain ⟨-, hines, halike⟩ := header_parse_inverts_encoding
  have hparse := (hines noisy (by decide) (by decide) (by decide)).2
  refine ⟨hparse.trans (congrArg Except.ok (by decide)), ?_⟩
  obtain ⟨header, header', hnoisy, hclean, hiff⟩ :=
    halike noisy clean (by decide) (by decide) (by decide) (by decide)
  rw [hnoisy, hclean, hiff.mpr ⟨by decide, fun place bit hcarries => ?_⟩]
  -- The bytes that carry fields are the same but for byte 6 and the low half of byte 7.
  cases hcarries with
  | prgUnits | chrUnits => rfl
  | battery | trainer | fourScreen => decide
  | mapperLow h => exact (high_half_eq_iff ..).mp (by decide) bit h
  | mapperMiddle h => exact (high_half_eq_iff ..).mp (by decide) bit h
  | vertical h => exact absurd h (by decide)
  | mapperHigh h | submapper h | prgUnitsHigh h | chrUnitsHigh h | chrRamShift h =>
    exact absurd h (by decide)

end NesCartridge
