/-
  NesCartridge.Proofs.Chip.Mmc2

  What an MMC2 or MMC4 under the controller holds. Both halves of pattern memory keep two banks;
  the tile latches between them belong to the PPU and are left open here (`Mmc2.Holds`).
-/
import NesCartridge.Proofs.ChipWiring

namespace NesCartridge

namespace Mmc2

/-- The bank register of a CHR window. -/
def chrRegister (chip : Mmc2) : Nat → UInt8
  | 0 => chip.low.fd
  | 1 => chip.low.fe
  | 2 => chip.high.fd
  | _ => chip.high.fe

/-- The registers hold what the shadow says. -/
structure Holds (chip : Mmc2) (shadow : Shadow) : Prop where
  prg : chip.prg = UInt8.ofNat (shadow.prgBank 0)
  chr : ∀ i < 4, chip.chrRegister i = UInt8.ofNat (shadow.chrBank i)
  mirroring : chip.mirroring = shadow.mode

/-! ## The two boards with tile latches -/

section TileLatchBoards

variable {board : Board} (hlatches : board.descriptor.hasTileLatches = true)

include hlatches

theorem eq_of_hasTileLatches : board = .mmc2 ∨ board = .mmc4 := by
  cases board with
  | mmc2 => exact Or.inl rfl
  | mmc4 => exact Or.inr rfl
  | _ => cases hlatches

theorem prgWrites_eq (shadow : Shadow) (number : Nat) :
    board.prgWrites shadow number =
      [⟨Address.mmc2Prg, UInt8.ofNat (shadow.prgBank number)⟩] := by
  rcases eq_of_hasTileLatches hlatches with rfl | rfl <;> rfl

theorem chrWrites_eq (shadow : Shadow) (number : Nat) :
    board.chrWrites shadow number =
      [⟨Board.tileLatchAddr number, UInt8.ofNat (shadow.chrBank number)⟩] := by
  rcases eq_of_hasTileLatches hlatches with rfl | rfl <;> rfl

theorem mirroringWrites_eq (shadow : Shadow) :
    board.mirroringWrites shadow = [⟨Address.mmc2Mirroring, shadow.mode.horizontalBit⟩] := by
  rcases eq_of_hasTileLatches hlatches with rfl | rfl <;> rfl

/-- MMC4 has its work RAM always on, MMC2 has none. -/
theorem wramWrites_eq (shadow : Shadow) : board.wramWrites shadow = [] := by
  rcases eq_of_hasTileLatches hlatches with rfl | rfl <;> rfl

theorem supportsIrq_eq : board.descriptor.supportsIrq = false := by
  rcases eq_of_hasTileLatches hlatches with rfl | rfl <;> rfl

theorem chrWindows_eq : board.descriptor.chrWindows = tileLatchWindows := by
  rcases eq_of_hasTileLatches hlatches with rfl | rfl <;> rfl

theorem mirroringSet_eq : board.descriptor.mirroring = .twoScreen := by
  rcases eq_of_hasTileLatches hlatches with rfl | rfl <;> rfl

/-- One PRG window, of sixteen banks. -/
theorem prgWindow_of_lt {number : Nat} {window : Window}
    (hwindow : board.descriptor.prgWindows[number]? = some window) :
    number = 0 ∧ window.maxBank = 15 := by
  have hlt := (List.getElem?_eq_some_iff.mp hwindow).1
  rcases eq_of_hasTileLatches hlatches with rfl | rfl
  · have hzero : number = 0 := Nat.lt_one_iff.mp hlt
    subst hzero
    cases hwindow
    exact ⟨rfl, rfl⟩
  · have hzero : number = 0 := Nat.lt_one_iff.mp hlt
    subst hzero
    cases hwindow
    exact ⟨rfl, rfl⟩

/-- Four CHR windows, of 32 banks each. -/
theorem chrWindow_of_lt {number : Nat} {window : Window}
    (hwindow : board.descriptor.chrWindows[number]? = some window) :
    number < 4 ∧ window.maxBank = 31 := by
  rw [chrWindows_eq hlatches] at hwindow
  have hlt : number < 4 := (List.getElem?_eq_some_iff.mp hwindow).1
  refine ⟨hlt, ?_⟩
  match number, hlt with
  | 0, _ | 1, _ | 2, _ | 3, _ => cases hwindow; rfl

end TileLatchBoards

/-! ## Register writes -/

theorem write_prg (chip : Mmc2) (data : UInt8) :
    chip.write Address.mmc2Prg data = { chip with prg := data &&& 0x0F } := rfl

theorem write_mirroring (chip : Mmc2) (data : UInt8) :
    chip.write Address.mmc2Mirroring data =
      { chip with mirroring := if data &&& 1 == 1 then .horizontal else .vertical } := rfl

theorem chrRegister_write (chip : Mmc2) {number i : Nat} (hnumber : number < 4) (hi : i < 4)
    (data : UInt8) :
    (chip.write (Board.tileLatchAddr number) data).chrRegister i =
      if i = number then data &&& 0x1F else chip.chrRegister i := by
  match number, hnumber, i, hi with
  | 0, _, 0, _ | 0, _, 1, _ | 0, _, 2, _ | 0, _, 3, _ => rfl
  | 1, _, 0, _ | 1, _, 1, _ | 1, _, 2, _ | 1, _, 3, _ => rfl
  | 2, _, 0, _ | 2, _, 1, _ | 2, _, 2, _ | 2, _, 3, _ => rfl
  | 3, _, 0, _ | 3, _, 1, _ | 3, _, 2, _ | 3, _, 3, _ => rfl

/-- A CHR register is written without touching the others. -/
theorem write_tileLatchAddr_frame (chip : Mmc2) (number : Nat) (data : UInt8) :
    (chip.write (Board.tileLatchAddr number) data).prg = chip.prg ∧
      (chip.write (Board.tileLatchAddr number) data).mirroring = chip.mirroring := by
  unfold Board.tileLatchAddr
  split <;> exact ⟨rfl, rfl⟩

/-! ## What the registers hold -/

variable {board : Board} {chip : Mmc2} {shadow after : Shadow}

/-- Every register is written when the board is brought up. -/
theorem holds_bringUp (hlatches : board.descriptor.hasTileLatches = true) (chip : Mmc2) :
    ∃ next, (Chip.mmc2 chip).writeAll board.bringUpWrites = .mmc2 next ∧
      next.Holds (.atBringUp board) := by
  rcases eq_of_hasTileLatches hlatches with rfl | rfl
  all_goals
    refine ⟨_, rfl, rfl, ?_, rfl⟩
    intro i hi
    match i, hi with
    | 0, _ | 1, _ | 2, _ | 3, _ => rfl

/-- After an accepted request the registers hold the new shadow. -/
theorem Holds.answers (hlatches : board.descriptor.hasTileLatches = true) (h : chip.Holds shadow)
    (hfits : shadow.Fits board) {req : Request} {writes : List RegisterWrite}
    (hans : board.Answers shadow req after writes) :
    ∃ next, (Chip.mmc2 chip).writeAll writes = .mmc2 next ∧ next.Holds after := by
  -- One write for each request, which moves one register and frames the rest.
  cases hans with
  | bringUp => exact holds_bringUp hlatches chip
  | @selectPrg number bank window hwindow hbank =>
    obtain ⟨rfl, hmax⟩ := prgWindow_of_lt hlatches hwindow
    have hself := hfits.prgBank_setPrg hwindow bank 0
    rw [if_pos rfl] at hself
    have hmask : UInt8.ofNat bank &&& 0x0F = UInt8.ofNat bank :=
      ofNat_and_of_lt 4 (by omega) (by omega) rfl
    rw [prgWrites_eq hlatches, hself]
    refine ⟨_, congrArg Chip.mmc2 (write_prg chip _), ?_, h.chr, h.mirroring⟩
    rw [hself]
    exact hmask
  | @selectChr number bank window hwindow hbank =>
    obtain ⟨hlt, hmax⟩ := chrWindow_of_lt hlatches hwindow
    have hset := hfits.chrBank_setChr hwindow bank
    have hself := hset number
    rw [if_pos rfl] at hself
    have hmask : UInt8.ofNat bank &&& 0x1F = UInt8.ofNat bank :=
      ofNat_and_of_lt 5 (by omega) (by omega) rfl
    obtain ⟨hprg, hmirroring⟩ := write_tileLatchAddr_frame chip number (UInt8.ofNat bank)
    rw [chrWrites_eq hlatches, hself]
    refine ⟨_, rfl, hprg.trans h.prg, ?_, hmirroring.trans h.mirroring⟩
    intro i hi
    rw [chrRegister_write chip hlt hi, hset i, hmask]
    split
    next => rfl
    next => exact h.chr i hi
  | @setMirroring mode hmode =>
    rw [Descriptor.supportsMirroring, mirroringSet_eq hlatches] at hmode
    rw [mirroringWrites_eq hlatches]
    exact ⟨_, congrArg Chip.mmc2 (write_mirroring chip _), h.prg, h.chr,
      Mirroring.of_horizontalBit hmode⟩
  | @setWram mode hmode =>
    rw [wramWrites_eq hlatches]
    exact ⟨chip, rfl, h.prg, h.chr, h.mirroring⟩
  | configureIrq hirq =>
    rw [supportsIrq_eq hlatches] at hirq
    cases hirq
  | acknowledgeIrq hirq =>
    rw [supportsIrq_eq hlatches] at hirq
    cases hirq

/-- Fetches only move the tile latches. -/
theorem Holds.fetched (h : chip.Holds shadow) (addr : UInt16) :
    (chip.fetched addr).Holds shadow := by
  unfold Mmc2.fetched
  dsimp only
  split
  all_goals exact ⟨h.prg, h.chr, h.mirroring⟩

/-! ## What the registers map -/

/-- The window of a half of pattern memory that shows while its latch has the given state. -/
def shownWindow (half : Nat) : TileLatch → Nat
  | .fd => 2 * half
  | .fe => 2 * half + 1

theorem Holds.chrBank_eq (h : chip.Holds shadow)
    (hfits : shadow.Fits board) (addr : UInt16) :
    chip.chrBank addr =
      shadow.chrBank (shownWindow (addr.toNat / 0x1000 % 2) (chip.half addr).latch) := by
  -- The latch of the half that the address lies in picks one of its two registers.
  have hregister : ∀ i < 4, (chip.chrRegister i).toNat = shadow.chrBank i := fun i hi => by
    rw [h.chr i hi, toNat_ofNat_of_le (hfits.chrBank_le i)]
  rcases Nat.mod_two_eq_zero_or_one (addr.toNat / 0x1000) with hhalf | hhalf
  · have hlow : chip.half addr = chip.low := if_pos hhalf
    rw [chrBank, hlow, hhalf, PatternHalf.current]
    cases chip.low.latch with
    | fd => exact hregister 0 (by decide)
    | fe => exact hregister 1 (by decide)
  · have hhigh : chip.half addr = chip.high := if_neg (by omega)
    rw [chrBank, hhigh, hhalf, PatternHalf.current]
    cases chip.high.latch with
    | fd => exact hregister 2 (by decide)
    | fe => exact hregister 3 (by decide)

theorem Holds.prg_toNat (h : chip.Holds shadow) (hfits : shadow.Fits board) :
    chip.prg.toNat = shadow.prgBank 0 := by
  rw [h.prg, toNat_ofNat_of_le (hfits.prgBank_le 0)]

end Mmc2

end NesCartridge
