/-
  NesCartridge.Proofs.Chip.Mmc3

  What an MMC3 under the controller holds. A select and data pair stores into one bank register
  and leaves the other seven alone (`get_store`), so each request moves only the windows that it
  names (`Holds.answers`). The bits that exchange parts of the address map stay clear because the
  controller never sends them.
-/
import NesCartridge.Proofs.ChipWiring

namespace NesCartridge

/-- Contents of a bank register: two wide CHR banks in 1 KiB units, four CHR banks, two PRG
banks. -/
def Shadow.mmc3Bank (shadow : Shadow) (register : Nat) : UInt8 :=
  if register < 2 then UInt8.ofNat (shadow.chrBank register) <<< 1
  else if register < 6 then UInt8.ofNat (shadow.chrBank register)
  else UInt8.ofNat (shadow.prgBank (register - 6))

namespace Mmc3

/-- The registers hold what the shadow says. -/
structure Holds (chip : Mmc3) (shadow : Shadow) : Prop where
  banks : ∀ register : Fin 8, chip.banks.get register = shadow.mmc3Bank register
  mirroring : chip.mirroring = shadow.mode
  wramEnabled : chip.wramEnabled = !decide (shadow.wram = some .disabled)
  wramProtected : chip.wramProtected = decide (shadow.wram = some .readOnly)

/-! ## Register writes -/

/-- Name a bank register, then store into it. -/
def store (chip : Mmc3) (register value : UInt8) : Mmc3 :=
  { chip with
    bankSelect := register
    banks := chip.banks.set (bankRegister register) value }

theorem write_select (chip : Mmc3) (data : UInt8) :
    chip.write Address.mmc3Select data = { chip with bankSelect := data } := rfl

theorem write_data (chip : Mmc3) (data : UInt8) :
    chip.write Address.mmc3Data data = chip.store chip.bankSelect data := rfl

theorem writeAll_mmc3Writes (chip : Mmc3) (register value : UInt8) :
    (Chip.mmc3 chip).writeAll (mmc3Writes register value) = .mmc3 (chip.store register value) := by
  rw [mmc3Writes, pairWrites, Chip.writeAll_cons, Chip.writeAll_cons, Chip.writeAll_nil]
  show Chip.mmc3 ((chip.write Address.mmc3Select register).write Address.mmc3Data value) = _
  rw [write_select, write_data]
  rfl

theorem get_store (chip : Mmc3) {number : Nat} (hnumber : number < 8) (value : UInt8)
    (register : Fin 8) :
    (chip.store (UInt8.ofNat number) value).banks.get register =
      if register.val = number then value else chip.banks.get register := by
  -- The chip looks at three bits of the select byte, enough for every register number.
  have hindex : (bankRegister (UInt8.ofNat number)).val = number := by
    show (UInt8.ofNat number).toNat % 8 = number
    rw [toNat_ofNat_of_le (by omega)]
    exact Nat.mod_eq_of_lt hnumber
  show (chip.banks.set (bankRegister (UInt8.ofNat number)).val value (Fin.isLt _))[register.val] = _
  rw [Vector.getElem_set]
  by_cases heq : register.val = number
  · rw [if_pos (hindex.trans heq.symm), if_pos heq]
  · rw [if_neg (fun h => heq (h.symm.trans hindex)), if_neg heq]
    rfl

theorem write_mirroring (chip : Mmc3) (data : UInt8) :
    chip.write Address.mmc3Mirroring data =
      { chip with mirroring := if data &&& 1 == 1 then .horizontal else .vertical } := rfl

theorem write_wramProtect (chip : Mmc3) (data : UInt8) :
    chip.write Address.mmc3WramProtect data =
      { chip with wramEnabled := data &&& 0x80 != 0, wramProtected := data &&& 0x40 != 0 } := rfl

theorem wram_bits (shadow : Shadow) :
    (shadow.mmc3Wram &&& 0x80 != 0) = !decide (shadow.wram = some .disabled) ∧
      (shadow.mmc3Wram &&& 0x40 != 0) = decide (shadow.wram = some .readOnly) := by
  unfold Shadow.mmc3Wram
  cases shadow.wram with
  | none => exact ⟨rfl, rfl⟩
  | some mode => cases mode <;> exact ⟨rfl, rfl⟩

/-! ## What the registers hold -/

variable {chip : Mmc3} {shadow after : Shadow}

/-- The first part of bringing the board up clears the bank registers one after another. -/
theorem writeAll_clear (chip : Mmc3) {n : Nat} (hn : n ≤ 8) :
    ∃ next, (Chip.mmc3 chip).writeAll
        ((List.range n).flatMap fun r => mmc3Writes (UInt8.ofNat r) 0) = .mmc3 next ∧
      ∀ register : Fin 8, register.val < n → next.banks.get register = 0 := by
  induction n with
  | zero => exact ⟨chip, rfl, fun register h => absurd h (Nat.not_lt_zero _)⟩
  | succ n ih =>
    obtain ⟨next, hnext, hcleared⟩ := ih (by omega)
    refine ⟨next.store (UInt8.ofNat n) 0, ?_, ?_⟩
    · rw [List.range_succ, List.flatMap_append, Chip.writeAll_append, hnext,
        List.flatMap_singleton, writeAll_mmc3Writes]
    · intro register hregister
      rw [get_store next (by omega)]
      split
      next => rfl
      next hne => exact hcleared register (by omega)

theorem mmc3Bank_atBringUp (register : Nat) :
    (Shadow.atBringUp .mmc3).mmc3Bank register = 0 := by
  rw [Shadow.mmc3Bank, Shadow.chrBank_atBringUp, Shadow.prgBank_atBringUp]
  split
  · rfl
  · split <;> rfl

theorem holds_bringUp (chip : Mmc3) :
    ∃ next, (Chip.mmc3 chip).writeAll Board.mmc3.bringUpWrites = .mmc3 next ∧
      next.Holds (.atBringUp .mmc3) := by
  -- After the bank registers come three single writes, which leave the banks alone.
  obtain ⟨next, hnext, hcleared⟩ := writeAll_clear chip (Nat.le_refl 8)
  have hrest : (Chip.mmc3 chip).writeAll Board.mmc3.bringUpWrites =
      .mmc3 (((next.write Address.mmc3Mirroring 0).write Address.mmc3WramProtect 0x80).write
        Address.mmc3IrqDisable 0) := by
    simp only [Board.bringUpWrites, Chip.writeAll_append, hnext]
    rfl
  refine ⟨_, hrest, fun register => ?_, rfl, rfl, rfl⟩
  rw [mmc3Bank_atBringUp]
  exact hcleared register register.isLt

theorem mmc3Bank_setPrg (hfits : shadow.Fits .mmc3) {number bank : Nat} {window : Window}
    (hwindow : Board.mmc3.descriptor.prgWindows[number]? = some window) (register : Nat) :
    (shadow.setPrg number bank).mmc3Bank register =
      if register = 6 + number then UInt8.ofNat bank else shadow.mmc3Bank register := by
  rw [Shadow.mmc3Bank, Shadow.mmc3Bank, hfits.prgBank_setPrg hwindow bank]
  -- Registers below 6 are for CHR, which a PRG selection leaves alone.
  by_cases hchr : register < 6
  · rw [if_neg (show ¬ register = 6 + number by omega)]
    by_cases hwide : register < 2
    · rw [if_pos hwide, if_pos hwide]
      rfl
    · rw [if_neg hwide, if_neg hwide, if_pos hchr, if_pos hchr]
      rfl
  · have hwide : ¬ register < 2 := by omega
    rw [if_neg hwide, if_neg hwide, if_neg hchr, if_neg hchr]
    by_cases heq : register = 6 + number
    · rw [if_pos heq, if_pos (by omega)]
    · rw [if_neg heq, if_neg (by omega)]

theorem mmc3Bank_setChr (hfits : shadow.Fits .mmc3) {number bank : Nat} {window : Window}
    (hwindow : Board.mmc3.descriptor.chrWindows[number]? = some window) (register : Nat) :
    (shadow.setChr number bank).mmc3Bank register =
      if register = number then
        if number < 2 then UInt8.ofNat bank <<< 1 else UInt8.ofNat bank
      else shadow.mmc3Bank register := by
  have hlt : number < 6 := (List.getElem?_eq_some_iff.mp hwindow).1
  rw [Shadow.mmc3Bank, Shadow.mmc3Bank, hfits.chrBank_setChr hwindow bank]
  by_cases heq : register = number
  · subst heq
    rw [if_pos rfl, if_pos rfl, if_pos hlt]
  · rw [if_neg heq, if_neg heq]
    rfl

/-- After a pair of writes the registers hold a shadow that differs only in the named one. -/
theorem Holds.store (h : chip.Holds shadow) {number : Nat} (hnumber : number < 8) {value : UInt8}
    (hbanks : ∀ register < 8,
      after.mmc3Bank register = if register = number then value else shadow.mmc3Bank register)
    (hmode : after.mode = shadow.mode) (hwram : after.wram = shadow.wram) :
    (chip.store (UInt8.ofNat number) value).Holds after where
  banks register := by
    rw [get_store chip hnumber value register, hbanks register register.isLt, h.banks register]
  mirroring := h.mirroring.trans hmode.symm
  wramEnabled := by rw [hwram]; exact h.wramEnabled
  wramProtected := by rw [hwram]; exact h.wramProtected

/-- The IRQ registers are apart from everything that the shadow speaks of. -/
theorem Holds.write_irq (h : chip.Holds shadow) (addr : UInt16) (haddr : 0xC000 ≤ addr.toNat)
    (data : UInt8) : (chip.write addr data).Holds shadow := by
  unfold write
  dsimp only
  rw [if_neg (by omega), if_neg (by omega), if_neg (by omega)]
  repeat' split
  all_goals exact ⟨h.banks, h.mirroring, h.wramEnabled, h.wramProtected⟩

/-- After an accepted request the registers hold the new shadow. -/
theorem Holds.answers (h : chip.Holds shadow) (hfits : shadow.Fits .mmc3) {req : Request}
    {writes : List RegisterWrite} (hans : Board.mmc3.Answers shadow req after writes) :
    ∃ next, (Chip.mmc3 chip).writeAll writes = .mmc3 next ∧ next.Holds after := by
  cases hans with
  | bringUp => exact holds_bringUp chip
  | @selectPrg number bank window hwindow hbank =>
    have hlt : number < 2 := (List.getElem?_eq_some_iff.mp hwindow).1
    have hself := hfits.prgBank_setPrg hwindow bank number
    rw [if_pos rfl] at hself
    rw [Board.prgWrites, hself]
    exact ⟨_, writeAll_mmc3Writes .., h.store (by omega)
      (fun register _ => mmc3Bank_setPrg hfits hwindow register) rfl rfl⟩
  | @selectChr number bank window hwindow hbank =>
    have hlt : number < 6 := (List.getElem?_eq_some_iff.mp hwindow).1
    have hself := hfits.chrBank_setChr hwindow bank number
    rw [if_pos rfl] at hself
    rw [Board.chrWrites, hself]
    exact ⟨_, writeAll_mmc3Writes .., h.store (by omega)
      (fun register _ => mmc3Bank_setChr hfits hwindow register) rfl rfl⟩
  | @setMirroring mode hmode =>
    exact ⟨_, congrArg Chip.mmc3 (write_mirroring chip _), h.banks,
      Mirroring.of_horizontalBit hmode, h.wramEnabled, h.wramProtected⟩
  | @setWram mode hmode =>
    obtain ⟨henabled, hprotected⟩ := wram_bits { shadow with wram := some mode }
    exact ⟨_, congrArg Chip.mmc3 (write_wramProtect chip _), h.banks, h.mirroring, henabled,
      hprotected⟩
  | @configureIrq period enabled hirq hpos hmax =>
    have hloaded := (h.write_irq Address.mmc3IrqPeriod (by decide)
      (UInt8.ofNat (period - 1))).write_irq Address.mmc3IrqReload (by decide) 0
    have hstopped := hloaded.write_irq Address.mmc3IrqDisable (by decide) 0
    cases enabled with
    | true => exact ⟨_, rfl, hstopped.write_irq Address.mmc3IrqEnable (by decide) 0⟩
    | false => exact ⟨_, rfl, hstopped⟩
  | acknowledgeIrq hirq =>
    have hdisabled := h.write_irq Address.mmc3IrqDisable (by decide) 0
    exact ⟨_, rfl, hdisabled.write_irq Address.mmc3IrqEnable (by decide) 0⟩

/-- Fetches only move the IRQ counter. -/
theorem Holds.fetched (h : chip.Holds shadow) (addr : UInt16) :
    (chip.fetched addr).Holds shadow := by
  unfold Mmc3.fetched
  dsimp only
  split <;> exact ⟨h.banks, h.mirroring, h.wramEnabled, h.wramProtected⟩

/-! ## What the registers map -/

/-- The controller's select bytes exchange nothing. -/
theorem not_swapped (hselect : Board.mmc3.IsSelect chip.bankSelect) :
    chip.prgSwapped = false ∧ chip.chrInverted = false := by
  have hmask : chip.bankSelect &&& 0x07 = chip.bankSelect := hselect
  refine ⟨?_, ?_⟩
  · rw [prgSwapped, ← hmask, UInt8.and_assoc, show (0x07 : UInt8) &&& 0x40 = 0 from rfl,
      UInt8.and_zero]
    rfl
  · rw [chrInverted, ← hmask, UInt8.and_assoc, show (0x07 : UInt8) &&& 0x80 = 0 from rfl,
      UInt8.and_zero]
    rfl

/-- Two windows, and the end of the memory behind them. -/
theorem Holds.prgBank_eq (h : chip.Holds shadow) (hfits : shadow.Fits .mmc3)
    (hselect : Board.mmc3.IsSelect chip.bankSelect) (prgSize slot : Nat) :
    chip.prgBank prgSize slot =
      match slot with
      | 0 => shadow.prgBank 0
      | 1 => shadow.prgBank 1
      | 2 => bankCount prgSize 0x2000 - 1 - 1
      | _ => bankCount prgSize 0x2000 - 1 := by
  -- The chip decodes six bits of a PRG bank, and no window has more banks than those.
  have hbank : ∀ bank ≤ 63, (UInt8.ofNat bank).toNat % 64 = bank := fun bank hle => by
    rw [toNat_ofNat_of_le (by omega)]
    exact Nat.mod_eq_of_lt (Nat.lt_succ_of_le hle)
  have h6 : (chip.banks.get ⟨6, by decide⟩).toNat % 64 = shadow.prgBank 0 := by
    rw [h.banks ⟨6, by decide⟩]
    exact hbank _ (hfits.prg_le 0 _ rfl)
  have h7 : (chip.banks.get ⟨7, by decide⟩).toNat % 64 = shadow.prgBank 1 := by
    rw [h.banks ⟨7, by decide⟩]
    exact hbank _ (hfits.prg_le 1 _ rfl)
  simp only [prgBank, (not_swapped hselect).1, h6, h7]
  rfl

/-- Two wide windows of two slots each, then four of one. -/
theorem Holds.chrBank_eq (h : chip.Holds shadow) (hfits : shadow.Fits .mmc3)
    (hselect : Board.mmc3.IsSelect chip.bankSelect) (addr : UInt16) :
    chip.chrBank addr =
      let slot := addr.toNat / 0x400 % 8
      if slot < 4 then shadow.chrBank (slot / 2) * 2 + slot % 2
      else shadow.chrBank (slot - 2) := by
  -- A wide bank is stored in 1 KiB units, its number doubled.
  have hdouble : ∀ bank ≤ 127, (UInt8.ofNat bank <<< 1).toNat / 2 * 2 = bank * 2 := by
    decide +kernel
  have hwide : ∀ register : Fin 8, register.val < 2 → shadow.chrBank register ≤ 127 →
      (chip.banks.get register).toNat / 2 * 2 = shadow.chrBank register * 2 := by
    intro register hlow hle
    rw [h.banks register, Shadow.mmc3Bank, if_pos hlow]
    exact hdouble _ hle
  have hnarrow : ∀ register : Fin 8, 2 ≤ register.val → register.val < 6 →
      (chip.banks.get register).toNat = shadow.chrBank register := by
    intro register hlow hhigh
    rw [h.banks register, Shadow.mmc3Bank, if_neg (by omega), if_pos hhigh]
    exact toNat_ofNat_of_le (hfits.chrBank_le register)
  have h0 := hwide 0 (by decide) (hfits.chr_le 0 _ rfl)
  have h1 := hwide 1 (by decide) (hfits.chr_le 1 _ rfl)
  simp only [chrBank, (not_swapped hselect).2, Bool.false_eq_true, if_false]
  have hlt : addr.toNat / 0x400 % 8 < 8 := Nat.mod_lt _ (by decide)
  generalize addr.toNat / 0x400 % 8 = slot at hlt
  match slot, hlt with
  | 0, _ => exact h0
  | 1, _ => exact congrArg (· + 1) h0
  | 2, _ => exact h1
  | 3, _ => exact congrArg (· + 1) h1
  | 4, _ => exact hnarrow 2 (by decide) (by decide)
  | 5, _ => exact hnarrow 3 (by decide) (by decide)
  | 6, _ => exact hnarrow 4 (by decide) (by decide)
  | 7, _ => exact hnarrow 5 (by decide) (by decide)

end Mmc3

end NesCartridge
