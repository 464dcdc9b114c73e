/-
  NesCartridge.Proofs.Chip.Action53

  What an Action 53 under the controller holds. In the one-screen modes every bank write also
  carries the screen bit; the controller sends the bit that the mode register has already, so that
  no bank selection moves the screen (`takeScreen_eq`).
-/
import NesCartridge.Proofs.ChipWiring

namespace NesCartridge

namespace Action53

/-- The registers hold what the shadow says, inside the first outer bank. -/
structure Holds (chip : Action53) (shadow : Shadow) : Prop where
  chr : chip.chr = UInt8.ofNat (shadow.chrBank 0)
  inner : chip.inner = UInt8.ofNat (shadow.prgBank 0)
  mode : chip.mode = shadow.action53Mode
  outer : chip.outer = 0

/-! ## Register writes -/

/-- Name a register, then store into it. -/
def store (chip : Action53) (register value : UInt8) : Action53 :=
  ({ chip with select := register &&& 0x81 }.load value).takeScreen value

theorem writeAll_action53Writes (chip : Action53) (register value : UInt8) :
    (Chip.action53 chip).writeAll (action53Writes register value) =
      .action53 (chip.store register value) := by
  rw [action53Writes, pairWrites, Chip.writeAll_cons, Chip.writeAll_cons, Chip.writeAll_nil]
  rfl

/-- Only CHR and inner bank writes carry a screen bit. -/
theorem takeScreen_of_select {chip : Action53} (h : (chip.select &&& 0x80 == 0) = false)
    (data : UInt8) : chip.takeScreen data = chip := by
  rw [takeScreen, h, Bool.false_and, if_neg (by decide)]

/-- A bank that comes with the screen bit in force leaves the screen where it is. -/
theorem takeScreen_eq {chip : Action53} {shadow : Shadow} (h : chip.mode = shadow.action53Mode)
    {bank : Nat} (hle : bank ≤ 15) :
    chip.takeScreen (UInt8.ofNat bank ||| shadow.action53Screen) = chip := by
  unfold takeScreen
  split
  next htakes =>
    -- The two one-screen modes end in the bit that the bank write carries.
    have hone : (chip.mode &&& 0x02 == 0) = true := (Bool.and_eq_true_iff.mp htakes).2
    have hlower : ∀ n < 16,
        UInt8.ofNat ((0x3C : UInt8).toNat / 2 * 2 + (UInt8.ofNat n ||| 0).toNat / 16 % 2) =
          0x3C := by decide
    have hupper : ∀ n < 16,
        UInt8.ofNat ((0x3D : UInt8).toNat / 2 * 2 + (UInt8.ofNat n ||| 0x10).toNat / 16 % 2) =
          0x3D := by decide
    have hsame : UInt8.ofNat (chip.mode.toNat / 2 * 2 +
        (UInt8.ofNat bank ||| shadow.action53Screen).toNat / 16 % 2) = chip.mode := by
      rw [h, Shadow.action53Mode] at hone ⊢
      unfold Shadow.action53Screen
      cases hmode : shadow.mode with
      | oneScreenLower => exact hlower bank (Nat.lt_succ_of_le hle)
      | oneScreenUpper => exact hupper bank (Nat.lt_succ_of_le hle)
      | vertical | horizontal | fourScreen =>
        rw [hmode] at hone
        exact absurd hone (by decide)
    rw [hsame]
  next => rfl

/-! ## What the registers hold -/

variable {chip : Action53} {shadow after : Shadow}

theorem action53Mode_and (shadow : Shadow) :
    shadow.action53Mode &&& 0x3F = shadow.action53Mode := by
  unfold Shadow.action53Mode
  cases shadow.mode <;> decide

/-- The screen bit lies above the bits of a bank. -/
theorem bank_and (bits : Nat) {bank : Nat} {mask : UInt8} (hbank : bank < 2 ^ bits)
    (hbits : bits ≤ 4) (hmask : mask.toNat = 2 ^ bits - 1) (hscreen : 0x10 &&& mask = 0)
    (shadow : Shadow) :
    (UInt8.ofNat bank ||| shadow.action53Screen) &&& mask = UInt8.ofNat bank := by
  have hno : shadow.action53Screen &&& mask = 0 := by
    unfold Shadow.action53Screen
    split
    · exact hscreen
    · exact UInt8.zero_and
  rw [or_and_distrib, hno, UInt8.or_zero, ofNat_and_of_lt bits hbank (by omega) hmask]

theorem store_chr (shadow : Shadow) (h : chip.mode = shadow.action53Mode) {bank : Nat}
    (hle : bank ≤ 3) :
    chip.store 0x00 (UInt8.ofNat bank ||| shadow.action53Screen) =
      { chip with select := 0x00, chr := UInt8.ofNat bank } := by
  have hload : ∀ value, { chip with select := 0x00 &&& 0x81 }.load value =
      { chip with select := 0x00, chr := value &&& 0x03 } := fun _ => rfl
  rw [store, hload, takeScreen_eq,
    bank_and 2 (Nat.lt_succ_of_le hle) (by decide) rfl rfl]
  · exact h
  · omega

theorem store_inner (shadow : Shadow) (h : chip.mode = shadow.action53Mode) {bank : Nat}
    (hle : bank ≤ 15) :
    chip.store 0x01 (UInt8.ofNat bank ||| shadow.action53Screen) =
      { chip with select := 0x01, inner := UInt8.ofNat bank } := by
  have hload : ∀ value, { chip with select := 0x01 &&& 0x81 }.load value =
      { chip with select := 0x01, inner := value &&& 0x0F } := fun _ => rfl
  rw [store, hload, takeScreen_eq,
    bank_and 4 (Nat.lt_succ_of_le hle) (by decide) rfl rfl]
  · exact h
  · exact hle

theorem store_mode (chip : Action53) (shadow : Shadow) :
    chip.store 0x80 shadow.action53Mode =
      { chip with select := 0x80, mode := shadow.action53Mode } := by
  have hload : ∀ value, { chip with select := 0x80 &&& 0x81 }.load value =
      { chip with select := 0x80, mode := value &&& 0x3F } := fun _ => rfl
  rw [store, hload, action53Mode_and, takeScreen_of_select]
  show ((0x80 : UInt8) &&& 0x80 == 0) = false
  decide

theorem store_outer (chip : Action53) (value : UInt8) :
    chip.store 0x81 value = { chip with select := 0x81, outer := value } := by
  have hload : { chip with select := 0x81 &&& 0x81 }.load value =
      { chip with select := 0x81, outer := value } := rfl
  rw [store, hload, takeScreen_of_select]
  show ((0x81 : UInt8) &&& 0x80 == 0) = false
  decide

/-- The mode goes first, so the bank writes after it carry a screen bit that is in force. -/
theorem holds_bringUp (chip : Action53) :
    ∃ next, (Chip.action53 chip).writeAll Board.action53.bringUpWrites = .action53 next ∧
      next.Holds (.atBringUp .action53) := by
  have hchr : (Shadow.atBringUp .action53).chrBank 0 ≤ 3 := by
    rw [Shadow.chrBank_atBringUp]
    omega
  have hprg : (Shadow.atBringUp .action53).prgBank 0 ≤ 15 := by
    rw [Shadow.prgBank_atBringUp]
    omega
  have hall : (Chip.action53 chip).writeAll Board.action53.bringUpWrites =
      .action53 { chip with
        select := 0x01
        chr := UInt8.ofNat ((Shadow.atBringUp .action53).chrBank 0)
        inner := UInt8.ofNat ((Shadow.atBringUp .action53).prgBank 0)
        mode := (Shadow.atBringUp .action53).action53Mode
        outer := 0 } := by
    simp only [Board.bringUpWrites, Board.mirroringWrites, Board.chrWrites, Board.prgWrites,
      Chip.writeAll_append, writeAll_action53Writes]
    rw [store_mode, store_outer, store_chr _ rfl hchr, store_inner _ rfl hprg]
  exact ⟨_, hall, rfl, rfl, rfl, rfl⟩

/-- After an accepted request the registers hold the new shadow. -/
theorem Holds.answers (h : chip.Holds shadow) (hfits : shadow.Fits .action53) {req : Request}
    {writes : List RegisterWrite} (hans : Board.action53.Answers shadow req after writes) :
    ∃ next, (Chip.action53 chip).writeAll writes = .action53 next ∧ next.Holds after := by
  have hafter := hfits.answers hans
  cases hans with
  | bringUp => exact holds_bringUp chip
  | @selectPrg number bank window hwindow hbank =>
    have hzero : number = 0 := Nat.lt_one_iff.mp (List.getElem?_eq_some_iff.mp hwindow).1
    subst hzero
    have hle := hafter.prg_le 0 _ rfl
    have hstore := store_inner (shadow.setPrg 0 bank) h.mode hle
    exact ⟨_, (writeAll_action53Writes ..).trans (congrArg Chip.action53 hstore), h.chr, rfl,
      h.mode, h.outer⟩
  | @selectChr number bank window hwindow hbank =>
    have hzero : number = 0 := Nat.lt_one_iff.mp (List.getElem?_eq_some_iff.mp hwindow).1
    subst hzero
    have hle := hafter.chr_le 0 _ rfl
    have hstore := store_chr (shadow.setChr 0 bank) h.mode hle
    exact ⟨_, (writeAll_action53Writes ..).trans (congrArg Chip.action53 hstore), rfl, h.inner,
      h.mode, h.outer⟩
  | @setMirroring mode hmode =>
    have hstore := store_mode chip { shadow with mirroring := some mode }
    exact ⟨_, (writeAll_action53Writes ..).trans (congrArg Chip.action53 hstore), h.chr, h.inner,
      rfl, h.outer⟩
  | setWram hmode => cases hmode
  | configureIrq hirq => cases hirq
  | acknowledgeIrq hirq => cases hirq

/-! ## What the registers map -/

/-- The window below, and the last bank of the outer bank above. -/
theorem Holds.prgBank_eq (h : chip.Holds shadow) (hfits : shadow.Fits .action53) (addr : UInt16) :
    chip.prgBank addr = if addr.toNat / 0x4000 % 2 = 1 then 15 else shadow.prgBank 0 := by
  -- The modes differ in the mirroring bits alone: all of them fix the outer bank at 256 KiB and
  -- the last bank at `$C000`.
  have hspan : chip.outerSpan = 16 := by
    rw [outerSpan, h.mode, Shadow.action53Mode]
    cases shadow.mode <;> rfl
  have hprg : chip.mode.toNat / 4 % 4 = 3 := by
    rw [h.mode, Shadow.action53Mode]
    cases shadow.mode <;> rfl
  have hle : shadow.prgBank 0 ≤ 15 := hfits.prg_le 0 _ rfl
  have hinner : chip.inner.toNat = shadow.prgBank 0 := by
    rw [h.inner, toNat_ofNat_of_le (hfits.prgBank_le 0)]
  have houter : chip.outer.toNat = 0 := by rw [h.outer]; rfl
  simp only [prgBank, innerBank, hspan, hprg, hinner, houter]
  split <;> omega

theorem Holds.chr_toNat (h : chip.Holds shadow) (hfits : shadow.Fits .action53) :
    chip.chr.toNat = shadow.chrBank 0 := by
  rw [h.chr, toNat_ofNat_of_le (hfits.chrBank_le 0)]

theorem Holds.mirroring_eq (h : chip.Holds shadow) (hmode : shadow.mode ≠ .fourScreen) :
    chip.mirroring = shadow.mode := by
  rw [mirroring, h.mode, Shadow.action53Mode]
  cases hcase : shadow.mode with
  | fourScreen => exact absurd hcase hmode
  | horizontal | vertical | oneScreenLower | oneScreenUpper => rfl

end Action53

end NesCartridge
