/-
  NesCartridge.Proofs.Chip.Fme7

  What an FME-7 under the controller holds. Every parameter is written by a command and data pair
  that stores there alone (`store_chr`, `store_prg`, `Holds.store_irq`), so each request moves only
  what it names (`Holds.answers`).
-/
import NesCartridge.Proofs.ChipWiring

namespace NesCartridge

namespace Fme7

/-- The parameters hold what the shadow says. -/
structure Holds (chip : Fme7) (shadow : Shadow) : Prop where
  chr : ∀ window : Fin 8, chip.chr[window] = UInt8.ofNat (shadow.chrBank window)
  prg : ∀ window : Fin 3, chip.prg[window] = UInt8.ofNat (shadow.prgBank window)
  low : chip.low = shadow.fme7Low
  nametables : chip.nametables = shadow.mode.screenLastBits

/-! ## Register writes -/

/-- Name a parameter, then store into it. -/
def store (chip : Fme7) (parameter value : UInt8) : Fme7 :=
  { chip with command := parameter &&& 0x0F }.load value

theorem writeAll_fme7Writes (chip : Fme7) (parameter value : UInt8) :
    (Chip.fme7 chip).writeAll (fme7Writes parameter value) =
      .fme7 (chip.store parameter value) := by
  rw [fme7Writes, pairWrites, Chip.writeAll_cons, Chip.writeAll_cons, Chip.writeAll_nil]
  rfl

theorem store_chr (chip : Fme7) {number : Nat} (hnumber : number < 8) (value : UInt8) :
    chip.store (UInt8.ofNat number) value =
      { chip with command := UInt8.ofNat number, chr := chip.chr.set number value } := by
  -- Which parameter is meant is settled by the byte, so each number is a case of its own.
  match number, hnumber with
  | 0, _ | 1, _ | 2, _ | 3, _ | 4, _ | 5, _ | 6, _ | 7, _ => rfl

theorem store_prg (chip : Fme7) {number : Nat} (hnumber : number < 3) (value : UInt8) :
    chip.store (UInt8.ofNat (9 + number)) value =
      { chip with
        command := UInt8.ofNat (9 + number)
        prg := chip.prg.set number (value &&& 0x3F) } := by
  match number, hnumber with
  | 0, _ | 1, _ | 2, _ => rfl

theorem store_low (chip : Fme7) (value : UInt8) :
    chip.store 0x08 value = { chip with command := 0x08, low := value } := rfl

theorem store_nametables (chip : Fme7) (value : UInt8) :
    chip.store 0x0C value = { chip with command := 0x0C, nametables := value &&& 0x03 } := rfl

/-- A bank register that is set keeps its byte, and every other keeps its own. -/
theorem getElem_set_bank {count : Nat} (banks : Vector UInt8 count) {number : Nat}
    (hnumber : number < count) (value : UInt8) (i : Fin count) :
    (banks.set number value)[i] = if i.val = number then value else banks[i] := by
  refine (Vector.getElem_set hnumber i.isLt).trans ?_
  by_cases heq : number = i.val
  · rw [if_pos heq, if_pos heq.symm]
  · rw [if_neg heq, if_neg (Ne.symm heq)]
    rfl

/-! ## What the parameters hold -/

variable {chip : Fme7} {shadow after : Shadow}

/-- The IRQ parameters are apart from everything that the shadow speaks of. -/
theorem Holds.store_irq (h : chip.Holds shadow) {parameter : UInt8}
    (hparameter : parameter = 0x0D ∨ parameter = 0x0E ∨ parameter = 0x0F) (value : UInt8) :
    (chip.store parameter value).Holds shadow := by
  rcases hparameter with rfl | rfl | rfl
  · exact ⟨h.chr, h.prg, h.low, h.nametables⟩
  · exact ⟨h.chr, h.prg, h.low, h.nametables⟩
  · exact ⟨h.chr, h.prg, h.low, h.nametables⟩

theorem screenLastBits_and (mode : Mirroring) :
    mode.screenLastBits &&& 0x03 = mode.screenLastBits := by
  cases mode <;> decide

/-- Bringing the board up loads the CHR banks one after another. -/
theorem writeAll_chrWrites (chip : Fme7) (shadow : Shadow) {n : Nat} (hn : n ≤ 8) :
    ∃ next, (Chip.fme7 chip).writeAll ((List.range n).flatMap (Board.fme7.chrWrites shadow)) =
        .fme7 next ∧
      ∀ window : Fin 8, window.val < n →
        next.chr[window] = UInt8.ofNat (shadow.chrBank window) := by
  induction n with
  | zero => exact ⟨chip, rfl, fun window h => absurd h (Nat.not_lt_zero _)⟩
  | succ n ih =>
    obtain ⟨next, hnext, hloaded⟩ := ih (by omega)
    have hwrite := writeAll_fme7Writes next (UInt8.ofNat n) (UInt8.ofNat (shadow.chrBank n))
    rw [store_chr next (by omega)] at hwrite
    have hlast : (Chip.fme7 chip).writeAll
        ((List.range (n + 1)).flatMap (Board.fme7.chrWrites shadow)) =
          (Chip.fme7 next).writeAll (Board.fme7.chrWrites shadow n) := by
      rw [List.range_succ, List.flatMap_append, Chip.writeAll_append, hnext,
        List.flatMap_singleton]
    refine ⟨_, hlast.trans hwrite, fun window hwindow => ?_⟩
    rw [getElem_set_bank next.chr (by omega)]
    split
    next heq => rw [heq]
    next hne => exact hloaded window (by omega)

/-- The PRG banks follow, after the parameter in between. -/
theorem writeAll_prgWrites (chip : Fme7) (shadow : Shadow)
    (hle : ∀ number < 3, shadow.prgBank number ≤ 63) {n : Nat} (hn : n ≤ 3) :
    ∃ next, (Chip.fme7 chip).writeAll ((List.range n).flatMap (Board.fme7.prgWrites shadow)) =
        .fme7 next ∧ next.chr = chip.chr ∧ next.low = chip.low ∧
      ∀ window : Fin 3, window.val < n →
        next.prg[window] = UInt8.ofNat (shadow.prgBank window) := by
  induction n with
  | zero => exact ⟨chip, rfl, rfl, rfl, fun window h => absurd h (Nat.not_lt_zero _)⟩
  | succ n ih =>
    obtain ⟨next, hnext, hchr, hlow, hloaded⟩ := ih (by omega)
    have hbank := hle n (by omega)
    have hmask : UInt8.ofNat (shadow.prgBank n) &&& 0x3F = UInt8.ofNat (shadow.prgBank n) :=
      ofNat_and_of_lt 6 (by omega) (by omega) rfl
    have hwrite := writeAll_fme7Writes next (UInt8.ofNat (9 + n)) (UInt8.ofNat (shadow.prgBank n))
    rw [store_prg next (by omega), hmask] at hwrite
    have hlast : (Chip.fme7 chip).writeAll
        ((List.range (n + 1)).flatMap (Board.fme7.prgWrites shadow)) =
          (Chip.fme7 next).writeAll (Board.fme7.prgWrites shadow n) := by
      rw [List.range_succ, List.flatMap_append, Chip.writeAll_append, hnext,
        List.flatMap_singleton]
    -- Window `n` was loaded just now, the windows before it earlier.
    refine ⟨_, hlast.trans hwrite, hchr, hlow, fun window hwindow => ?_⟩
    rw [getElem_set_bank next.prg (by omega)]
    split
    next heq => rw [heq]
    next hne => exact hloaded window (by omega)

theorem holds_bringUp (chip : Fme7) :
    ∃ next, (Chip.fme7 chip).writeAll Board.fme7.bringUpWrites = .fme7 next ∧
      next.Holds (.atBringUp .fme7) := by
  obtain ⟨first, hfirst, hchr⟩ := writeAll_chrWrites chip (.atBringUp .fme7) (Nat.le_refl 8)
  have hle : ∀ number < 3, (Shadow.atBringUp .fme7).prgBank number ≤ 63 := fun number _ => by
    rw [Shadow.prgBank_atBringUp]
    omega
  obtain ⟨second, hsecond, hkeptChr, hkeptLow, hprg⟩ :=
    writeAll_prgWrites (first.store 0x08 (Shadow.atBringUp .fme7).fme7Low) _ hle (Nat.le_refl 3)
  have hall : (Chip.fme7 chip).writeAll Board.fme7.bringUpWrites =
      .fme7 ((second.store 0x0C (Shadow.atBringUp .fme7).mode.screenLastBits).store 0x0D 0) := by
    have hlow : Board.fme7.wramWrites (.atBringUp .fme7) =
        fme7Writes 0x08 (Shadow.atBringUp .fme7).fme7Low := rfl
    simp only [Board.bringUpWrites, Chip.writeAll_append, hfirst, hlow, writeAll_fme7Writes,
      hsecond, Board.mirroringWrites]
  -- The last of the writes stops the IRQ counter, which the shadow does not speak of.
  refine ⟨_, hall, Holds.store_irq ?_ (Or.inl rfl) 0⟩
  rw [store_nametables]
  refine ⟨fun window => ?_, fun window => hprg window window.isLt, ?_, screenLastBits_and _⟩
  · show second.chr[window] = _
    rw [hkeptChr, store_low]
    exact hchr window window.isLt
  · exact hkeptLow

/-- After an accepted request the parameters hold the new shadow. -/
theorem Holds.answers (h : chip.Holds shadow) (hfits : shadow.Fits .fme7) {req : Request}
    {writes : List RegisterWrite} (hans : Board.fme7.Answers shadow req after writes) :
    ∃ next, (Chip.fme7 chip).writeAll writes = .fme7 next ∧ next.Holds after := by
  cases hans with
  | bringUp => exact holds_bringUp chip
  | @selectPrg number bank window hwindow hbank =>
    have hlt : number < 3 := (List.getElem?_eq_some_iff.mp hwindow).1
    have hset := hfits.prgBank_setPrg hwindow bank
    have hself := hset number
    rw [if_pos rfl] at hself
    have hmax : bank ≤ 63 := by
      match number, hlt with
      | 0, _ | 1, _ | 2, _ => cases hwindow; exact hbank
    have hmask : UInt8.ofNat bank &&& 0x3F = UInt8.ofNat bank :=
      ofNat_and_of_lt 6 (by omega) (by omega) rfl
    have hwrite := writeAll_fme7Writes chip (UInt8.ofNat (9 + number)) (UInt8.ofNat bank)
    rw [store_prg chip hlt, hmask] at hwrite
    rw [Board.prgWrites, hself]
    refine ⟨_, hwrite, h.chr, fun i => ?_, h.low, h.nametables⟩
    rw [hset i, getElem_set_bank chip.prg hlt]
    split
    next => rfl
    next => exact h.prg i
  | @selectChr number bank window hwindow hbank =>
    have hlt : number < 8 := (List.getElem?_eq_some_iff.mp hwindow).1
    have hset := hfits.chrBank_setChr hwindow bank
    have hself := hset number
    rw [if_pos rfl] at hself
    have hwrite := writeAll_fme7Writes chip (UInt8.ofNat number) (UInt8.ofNat bank)
    rw [store_chr chip hlt] at hwrite
    rw [Board.chrWrites, hself]
    refine ⟨_, hwrite, fun i => ?_, h.prg, h.low, h.nametables⟩
    rw [hset i, getElem_set_bank chip.chr hlt]
    split
    next => rfl
    next => exact h.chr i
  | @setMirroring mode hmode =>
    have hwrite := writeAll_fme7Writes chip 0x0C mode.screenLastBits
    rw [store_nametables, screenLastBits_and] at hwrite
    exact ⟨_, hwrite, h.chr, h.prg, h.low, rfl⟩
  | @setWram mode hmode =>
    have hwrite := writeAll_fme7Writes chip 0x08 { shadow with wram := some mode }.fme7Low
    rw [store_low] at hwrite
    exact ⟨_, hwrite, h.chr, h.prg, rfl, h.nametables⟩
  | @configureIrq period enabled hirq hpos hmax =>
    -- The counter is stopped, loaded by halves, and let go only if it is to raise the line.
    have hstopped := ((h.store_irq (Or.inl rfl) 0).store_irq (Or.inr (Or.inl rfl))
      (UInt8.ofNat (period - 1))).store_irq (Or.inr (Or.inr rfl))
      (UInt8.ofNat ((period - 1) / 256))
    simp only [Board.armWrites, Chip.writeAll_append, writeAll_fme7Writes]
    cases enabled with
    | true => exact ⟨_, writeAll_fme7Writes .., hstopped.store_irq (Or.inl rfl) 0x81⟩
    | false => exact ⟨_, rfl, hstopped⟩
  | acknowledgeIrq hirq =>
    exact ⟨_, writeAll_fme7Writes .., h.store_irq (Or.inl rfl) 0x81⟩

/-- Clock cycles only move the IRQ counter. -/
theorem Holds.clock (h : chip.Holds shadow) : chip.clock.Holds shadow := by
  unfold Fme7.clock
  split
  · exact ⟨h.chr, h.prg, h.low, h.nametables⟩
  · exact h

/-! ## What the parameters map -/

theorem Holds.prg_toNat (h : chip.Holds shadow) (hfits : shadow.Fits .fme7) (window : Fin 3) :
    chip.prg[window].toNat = shadow.prgBank window := by
  rw [h.prg window, toNat_ofNat_of_le (hfits.prgBank_le window)]

theorem Holds.chrBank_eq (h : chip.Holds shadow) (hfits : shadow.Fits .fme7) (addr : UInt16) :
    chip.chrBank addr = shadow.chrBank (addr.toNat / 0x400 % 8) := by
  have hbank := h.chr (Fin.ofNat 8 (addr.toNat / 0x400))
  show (chip.chr[Fin.ofNat 8 (addr.toNat / 0x400)]).toNat = _
  rw [hbank]
  exact toNat_ofNat_of_le (hfits.chrBank_le _)

theorem Holds.mirroring_eq (h : chip.Holds shadow) (hmode : shadow.mode ≠ .fourScreen) :
    chip.mirroring = shadow.mode := by
  rw [mirroring, h.nametables]
  cases hcase : shadow.mode with
  | fourScreen => exact absurd hcase hmode
  | horizontal | vertical | oneScreenLower | oneScreenUpper => rfl

/-- The work RAM is at `$6000`, unless it is off. -/
theorem Holds.lowTarget_eq (h : chip.Holds shadow) :
    chip.lowTarget = if shadow.wram = some .disabled then .openBus else .wram true := by
  rw [lowTarget, h.low, Shadow.fme7Low]
  split <;> rfl

end Fme7

end NesCartridge
