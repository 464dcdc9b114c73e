/-
  NesCartridge.Proofs.Chip.Mmc1

  What an MMC1 under the controller holds: every serial transfer starts and ends with an empty
  serial port, so five writes load one register (`writeAll_serialWrites`), and each register agrees
  with the shadow after every accepted request (`Holds.answers`).
-/
import NesCartridge.Proofs.ChipWiring

namespace NesCartridge

namespace Mmc1

/-- The registers hold what the shadow says, and no transfer is under way. -/
structure Holds (chip : Mmc1) (shadow : Shadow) : Prop where
  shift : chip.shift = 0
  count : chip.count = 0
  control : chip.control = shadow.mmc1Control
  chr0 : chip.chr0 = UInt8.ofNat (shadow.chrBank 0)
  chr1 : chip.chr1 = UInt8.ofNat (shadow.chrBank 1)
  prg : chip.prg = shadow.mmc1Prg

/-! ## Serial transfers -/

/-- A bit never has the reset bit set. -/
theorem write_bit (chip : Mmc1) {addr : UInt16} (haddr : 0x8000 ≤ addr.toNat) (n : Nat) :
    chip.write addr (UInt8.ofNat (n % 2)) = chip.shiftIn addr (UInt8.ofNat (n % 2)) := by
  have hbit : ¬ UInt8.ofNat (n % 2) &&& 0x80 ≠ 0 := by
    rcases Nat.mod_two_eq_zero_or_one n with h | h <;> rw [h] <;> decide
  rw [write, if_neg (by omega), if_neg hbit]

/-- The serial port after the low `count` bits of a value. -/
def portAfter (value : UInt8) : Nat → UInt8
  | 0 => 0
  | count + 1 =>
    (portAfter value count >>> 1) ||| ((UInt8.ofNat ((value.toNat >>> count) % 2) &&& 1) <<< 4)

theorem portAfter_five (value : UInt8) : portAfter value 5 = value &&& 0x1F := by
  revert value
  exact forall_byte (by decide +kernel)

/-- Up to four bits only fill the port. -/
theorem writeAll_bits {chip : Mmc1} (hshift : chip.shift = 0) (hcount : chip.count = 0)
    {addr : UInt16} (haddr : 0x8000 ≤ addr.toNat) (value : UInt8) {n : Nat} (hn : n ≤ 4) :
    (Chip.mmc1 chip).writeAll
        ((List.range n).map fun i => ⟨addr, UInt8.ofNat ((value.toNat >>> i) % 2)⟩) =
      .mmc1 { chip with shift := portAfter value n, count := n } := by
  -- On the number of bits sent; none of the first four completes a transfer.
  induction n with
  | zero =>
    obtain ⟨shift, count, control, chr0, chr1, prg⟩ := chip
    cases hshift
    cases hcount
    rfl
  | succ n ih =>
    rw [List.range_succ, List.map_append, Chip.writeAll_append, ih (by omega)]
    show Chip.mmc1 (write _ addr _) = _
    rw [write_bit _ haddr, shiftIn, if_pos (by show n + 1 < 5; omega)]
    rfl

/-- A transfer of five bits loads the register at its address. -/
theorem writeAll_serialWrites {chip : Mmc1} (hshift : chip.shift = 0) (hcount : chip.count = 0)
    {addr : UInt16} (haddr : 0x8000 ≤ addr.toNat) {value : UInt8}
    (hvalue : value &&& 0x1F = value) :
    (Chip.mmc1 chip).writeAll (serialWrites addr value) = .mmc1 (chip.load addr value) := by
  -- The fifth bit is apart from the others: it loads the register and empties the port.
  have hfive := portAfter_five value
  rw [portAfter] at hfive
  rw [serialWrites, List.range_succ, List.map_append, Chip.writeAll_append,
    writeAll_bits hshift hcount haddr value (Nat.le_refl 4)]
  show Chip.mmc1 (write _ addr _) = _
  rw [write_bit _ haddr, shiftIn, if_neg (by show ¬ 4 + 1 < 5; decide)]
  dsimp only
  rw [hfive, UInt8.and_assoc, UInt8.and_self, hvalue]
  obtain ⟨shift, count, control, chr0, chr1, prg⟩ := chip
  cases hshift
  cases hcount
  unfold load
  dsimp only
  split <;> rfl

/-! ## Register values -/

theorem control_and (shadow : Shadow) : shadow.mmc1Control &&& 0x1F = shadow.mmc1Control := by
  unfold Shadow.mmc1Control
  cases shadow.mode <;> decide

theorem bank_and {bank : Nat} (h : bank ≤ 31) : UInt8.ofNat bank &&& 0x1F = UInt8.ofNat bank :=
  ofNat_and_of_lt 5 (Nat.lt_succ_of_le h) (by omega) rfl

theorem prg_and {shadow : Shadow} (h : shadow.prgBank 0 ≤ 15) :
    shadow.mmc1Prg &&& 0x1F = shadow.mmc1Prg := by
  have hbank : UInt8.ofNat (shadow.prgBank 0) &&& 0x1F = UInt8.ofNat (shadow.prgBank 0) :=
    bank_and (by omega)
  rw [Shadow.mmc1Prg, or_and_distrib, hbank]
  split <;> rfl

/-! ## What the registers hold -/

/-- Whatever was under way, bringing the board up empties the port and loads every register. -/
theorem holds_bringUp (chip : Mmc1) :
    ∃ next, (Chip.mmc1 chip).writeAll Board.mmc1.bringUpWrites = .mmc1 next ∧
      next.Holds (.atBringUp .mmc1) := by
  have hbank : ∀ i, UInt8.ofNat ((Shadow.atBringUp .mmc1).chrBank i) &&& 0x1F = _ := fun i =>
    bank_and (by rw [Shadow.chrBank_atBringUp]; omega)
  have hprg : (Shadow.atBringUp .mmc1).mmc1Prg &&& 0x1F = _ :=
    prg_and (by rw [Shadow.prgBank_atBringUp]; omega)
  -- The first byte has the reset bit, so the four transfers after it start from an empty port.
  have hdrop : chip.write Address.mmc1Control 0x80 = chip.dropBits := rfl
  have hall : (Chip.mmc1 chip).writeAll Board.mmc1.bringUpWrites =
      .mmc1 ((((chip.dropBits.load Address.mmc1Control (Shadow.atBringUp .mmc1).mmc1Control).load
        Address.mmc1Chr0 (UInt8.ofNat ((Shadow.atBringUp .mmc1).chrBank 0))).load
        Address.mmc1Chr1 (UInt8.ofNat ((Shadow.atBringUp .mmc1).chrBank 1))).load
        Address.mmc1Prg (Shadow.atBringUp .mmc1).mmc1Prg) := by
    simp only [Board.bringUpWrites, Chip.writeAll_cons, Chip.writeAll_append,
      Board.mirroringWrites, Board.chrWrites, Board.prgWrites, Chip.write, hdrop, if_true]
    rw [if_neg (by decide), writeAll_serialWrites rfl rfl (by decide) (control_and _),
      writeAll_serialWrites rfl rfl (by decide) (hbank 0),
      writeAll_serialWrites rfl rfl (by decide) (hbank 1),
      writeAll_serialWrites rfl rfl (by decide) hprg]
  exact ⟨_, hall, rfl, rfl, rfl, rfl, rfl, rfl⟩

variable {chip : Mmc1} {shadow after : Shadow}

/-- A transfer to one register, with the shadow as it shall be afterwards. -/
theorem Holds.load (h : chip.Holds shadow) {addr : UInt16} (haddr : 0x8000 ≤ addr.toNat)
    {value : UInt8} (hvalue : value &&& 0x1F = value) (hnext : (chip.load addr value).Holds after) :
    ∃ next, (Chip.mmc1 chip).writeAll (serialWrites addr value) = .mmc1 next ∧
      next.Holds after :=
  ⟨chip.load addr value, writeAll_serialWrites h.shift h.count haddr hvalue, hnext⟩

/-- After an accepted request the registers hold the new shadow. -/
theorem Holds.answers (h : chip.Holds shadow) (hfits : shadow.Fits .mmc1) {req : Request}
    {writes : List RegisterWrite} (hans : Board.mmc1.Answers shadow req after writes) :
    ∃ next, (Chip.mmc1 chip).writeAll writes = .mmc1 next ∧ next.Holds after := by
  have hafter := hfits.answers hans
  have hprg := prg_and (hafter.prg_le 0 _ rfl)
  have hchr := fun i window (hi : Board.mmc1.descriptor.chrWindows[i]? = some window) =>
    hafter.chr_le i window hi
  cases hans with
  | bringUp => exact holds_bringUp chip
  | selectPrg hwindow hbank =>
    exact h.load (by decide) hprg ⟨h.shift, h.count, h.control, h.chr0, h.chr1, rfl⟩
  | @selectChr number bank window hwindow hbank =>
    have hlt : number < 2 := (List.getElem?_eq_some_iff.mp hwindow).1
    have hkeep := hfits.chrBank_setChr hwindow bank
    match number, hlt with
    | 0, _ =>
      have hother := hkeep 1
      rw [if_neg (by decide)] at hother
      exact h.load (by decide) (bank_and (hchr 0 _ rfl))
        ⟨h.shift, h.count, h.control, rfl, hother ▸ h.chr1, h.prg⟩
    | 1, _ =>
      have hother := hkeep 0
      rw [if_neg (by decide)] at hother
      exact h.load (by decide) (bank_and (hchr 1 _ rfl))
        ⟨h.shift, h.count, h.control, hother ▸ h.chr0, rfl, h.prg⟩
  | setMirroring hmode =>
    exact h.load (by decide) (control_and _) ⟨h.shift, h.count, rfl, h.chr0, h.chr1, h.prg⟩
  | setWram hmode =>
    exact h.load (by decide) hprg ⟨h.shift, h.count, h.control, h.chr0, h.chr1, rfl⟩
  | configureIrq hirq => cases hirq
  | acknowledgeIrq hirq => cases hirq

/-! ## What the registers map -/

theorem Holds.prgBank_eq (h : chip.Holds shadow) (hfits : shadow.Fits .mmc1) (prgSize : Nat)
    (addr : UInt16) :
    chip.prgBank prgSize addr =
      if 0xC000 ≤ addr.toNat then bankCount prgSize 0x4000 - 1 else shadow.prgBank 0 := by
  -- The controller only ever sends the mode that fixes the last bank at the top.
  have hmode : chip.control.toNat / 4 % 4 = 3 := by
    rw [h.control, Shadow.mmc1Control]
    cases shadow.mode <;> decide
  have hle : shadow.prgBank 0 ≤ 15 := hfits.prg_le 0 _ rfl
  have hbank : chip.prg.toNat % 16 = shadow.prgBank 0 := by
    have hall : ∀ n < 16, ∀ off : Bool,
        (UInt8.ofNat n ||| if off then 0x10 else 0).toNat % 16 = n := by decide
    have hoff := hall _ (Nat.lt_succ_of_le hle) (shadow.wram = some .disabled)
    rw [h.prg, Shadow.mmc1Prg]
    simpa only [decide_eq_true_eq] using hoff
  simp only [prgBank, hmode, hbank]

theorem Holds.chrBank_eq (h : chip.Holds shadow) (hfits : shadow.Fits .mmc1) (addr : UInt16) :
    chip.chrBank addr = shadow.chrBank (if 0x1000 ≤ addr.toNat then 1 else 0) := by
  -- The bit for two separate 4 KiB banks is always sent.
  have hmode : ¬ (chip.control &&& 0x10 == 0) = true := by
    rw [h.control, Shadow.mmc1Control]
    cases shadow.mode <;> decide
  rw [chrBank, if_neg hmode, h.chr0, h.chr1, toNat_ofNat_of_le (hfits.chrBank_le 0),
    toNat_ofNat_of_le (hfits.chrBank_le 1)]
  split <;> rfl

theorem Holds.mirroring_eq (h : chip.Holds shadow) (hmode : shadow.mode ≠ .fourScreen) :
    chip.mirroring = shadow.mode := by
  rw [mirroring, h.control, Shadow.mmc1Control]
  cases hcase : shadow.mode with
  | fourScreen => exact absurd hcase hmode
  | horizontal | vertical | oneScreenLower | oneScreenUpper => rfl

theorem Holds.wramEnabled_eq (h : chip.Holds shadow) (hfits : shadow.Fits .mmc1) :
    chip.wramEnabled = !decide (shadow.wram = some .disabled) := by
  have hle : shadow.prgBank 0 ≤ 15 := hfits.prg_le 0 _ rfl
  have hall : ∀ n < 16, ∀ off : Bool,
      ((UInt8.ofNat n ||| if off then 0x10 else 0) &&& 0x10 == 0) = !off := by decide
  have hoff := hall _ (Nat.lt_succ_of_le hle) (shadow.wram = some .disabled)
  rw [wramEnabled, h.prg, Shadow.mmc1Prg]
  simpa only [decide_eq_true_eq] using hoff

end Mmc1

end NesCartridge
