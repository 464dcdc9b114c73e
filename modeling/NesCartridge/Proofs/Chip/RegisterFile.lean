/-
  NesCartridge.Proofs.Chip.RegisterFile

  The registers of MMC3, FME-7 and Action 53 as the select register numbers them. A data write is
  stored in the register that is selected and leaves the others alone (`Chip.Wired.register_write`);
  only the screen bit in the mode of an Action 53 also moves with a bank.
-/
import NesCartridge.Proofs.Chip.Action53
import NesCartridge.Proofs.Chip.Mmc3

namespace NesCartridge

/-! ## The view -/

/-- The bank register that a select byte names. -/
def Mmc3.register (chip : Mmc3) (select : UInt8) : UInt8 :=
  chip.banks.get (bankRegister select)

/-- The register that a select byte names. -/
def Action53.register (chip : Action53) (select : UInt8) : UInt8 :=
  if select = 0x00 then chip.chr
  else if select = 0x01 then chip.inner
  else if select = 0x80 then chip.mode
  else chip.outer

/-- The parameter that a command names. The last two are the halves of the counter. -/
def Fme7.register (chip : Fme7) (select : UInt8) : UInt8 :=
  let number := select.toNat
  if h : number < 8 then chip.chr[number]
  else if number = 8 then chip.low
  else if h : number - 9 < 3 then chip.prg[number - 9]
  else if number = 0xC then chip.nametables
  -- The flags are stored apart; the register shows them at the bits they were written to.
  else if number = 0xD then
    (if chip.irqEnabled then 0x01 else 0) ||| (if chip.irqCounting then 0x80 else 0)
  else if number = 0xE then UInt8.ofNat (chip.irqCounter.toNat % 256)
  else UInt8.ofNat (chip.irqCounter.toNat / 256)

/-- The register that a select byte names, on chips that have a select register. -/
def Chip.register (chip : Chip) (select : UInt8) : UInt8 :=
  match chip with
  | .mmc3 c => c.register select
  | .action53 c => c.register select
  | .fme7 c => c.register select
  | _ => 0

namespace Board

/-- Address of the data register, on boards that have one. -/
def dataAddr? (board : Board) : Option UInt16 :=
  board.descriptor.register? .data

/-- Bits of a data write that the selected register keeps. -/
def storedBits (board : Board) (select : UInt8) : UInt8 :=
  match board with
  | .action53 =>
    if select = 0x00 then 0x03
    else if select = 0x01 then 0x0F
    else if select = 0x80 then 0x3F
    else 0xFF
  | .fme7 =>
    if select.toNat ≤ 8 then 0xFF
    else if select.toNat < 0xC then 0x3F
    else if select.toNat = 0xC then 0x03
    else if select.toNat = 0xD then 0x81
    else 0xFF
  | _ => 0xFF

/-- Bits of a register that only data written to that register can change. -/
def ownBits (board : Board) (select : UInt8) : UInt8 :=
  if board = .action53 ∧ select = 0x80 then 0x3E else 0xFF

theorem dataAddr?_mem {board : Board} {addr : UInt16} (h : board.dataAddr? = some addr) :
    board.descriptor.busConflicts = false ∧ addr ∈ board.addresses ∧
      board.selectAddr? ≠ some addr := by
  cases board with
  | mmc3 | action53 | fme7 =>
    cases h
    exact ⟨rfl, by decide, by decide⟩
  | _ => cases h

theorem dataAddr?_eq_none {board : Board} {layout : LatchLayout}
    (h : board.descriptor.latch = some layout) : board.dataAddr? = none := by
  cases board with
  | nrom | mmc1 | mmc2 | mmc3 | mmc4 | action53 | fme7 => cases h
  | uxRom | cnRom | axRom | colorDreams | unrom512 | bnRom | gnRom => rfl

/-- A write to the data register is one that the board lists. -/
theorem emits_data {board : Board} {addr : UInt16} (h : board.dataAddr? = some addr)
    (data : UInt8) : board.Emits ⟨addr, data⟩ := by
  obtain ⟨hconflicts, hmem, hselect⟩ := dataAddr?_mem h
  exact emits_of_mem hconflicts hmem hselect

theorem and_allBits (byte : UInt8) : byte &&& 0xFF = byte := UInt8.and_neg_one

/-- A select byte that the board takes as it is lies within the bits that it uses. -/
theorem IsSelect.toNat_le {board : Board} {byte : UInt8} (h : board.IsSelect byte) :
    byte.toNat ≤ board.selectMask.toNat :=
  calc byte.toNat = (byte &&& board.selectMask).toNat := (congrArg UInt8.toNat h).symm
    _ = byte.toNat &&& board.selectMask.toNat := UInt8.toNat_and ..
    _ ≤ board.selectMask.toNat := Nat.and_le_right

/-- The select register of an Action 53 knows four registers. -/
theorem IsSelect.action53_cases {byte : UInt8} (h : Board.action53.IsSelect byte) :
    byte = 0x00 ∨ byte = 0x01 ∨ byte = 0x80 ∨ byte = 0x81 := by
  have hall : ∀ v : UInt8, v &&& 0x81 = v → v = 0x00 ∨ v = 0x01 ∨ v = 0x80 ∨ v = 0x81 :=
    forall_byte (by decide +kernel)
  exact hall byte h

end Board

/-! ## Data writes -/

/-- Distinct select bytes of an MMC3 name distinct bank registers. -/
theorem Mmc3.register_write (chip : Mmc3) (data : UInt8) {other : UInt8}
    (hselect : Board.mmc3.IsSelect chip.bankSelect) (hother : Board.mmc3.IsSelect other) :
    (chip.write Address.mmc3Data data).register other =
      if other = chip.bankSelect then data else chip.register other := by
  have hle : chip.bankSelect.toNat ≤ 7 := hselect.toNat_le
  have hle' : other.toNat ≤ 7 := hother.toNat_le
  have hindex : (bankRegister other).val = other.toNat :=
    Nat.mod_eq_of_lt (Nat.lt_succ_of_le hle')
  have hstored := chip.get_store (Nat.lt_succ_of_le hle) data (bankRegister other)
  simp only [UInt8.ofNat_toNat, hindex, UInt8.toNat_inj] at hstored
  exact hstored

namespace Fme7

variable {chip : Fme7}

/-- What a data write does, by the command in force. -/
theorem load_cases (chip : Fme7) (data : UInt8) (hselect : Board.fme7.IsSelect chip.command) :
    let number := chip.command.toNat
    (∃ h : number < 8, chip.load data = { chip with chr := chip.chr.set number data }) ∨
      (number = 8 ∧ chip.load data = { chip with low := data }) ∨
      (8 < number ∧ ∃ h : number - 9 < 3,
        chip.load data = { chip with prg := chip.prg.set (number - 9) (data &&& 0x3F) }) ∨
      (number = 0xC ∧ chip.load data = { chip with nametables := data &&& 0x03 }) ∨
      (number = 0xD ∧ chip.load data =
        { chip with
          irqEnabled := data &&& 0x01 != 0
          irqCounting := data &&& 0x80 != 0
          irqPending := false }) ∨
      (number = 0xE ∧ chip.load data =
        { chip with irqCounter := UInt16.ofNat (chip.irqCounter.toNat / 256 * 256 + data.toNat) }) ∨
      (number = 0xF ∧ chip.load data =
        { chip with
          irqCounter := UInt16.ofNat (chip.irqCounter.toNat % 256 + data.toNat * 256) }) := by
  intro number
  have hle : number ≤ 15 := hselect.toNat_le
  unfold load
  dsimp only
  split
  next h => exact .inl ⟨h, rfl⟩
  next h8 =>
    split
    next h => exact .inr (.inl ⟨h, rfl⟩)
    next h9 =>
      split
      next h => exact .inr (.inr (.inl ⟨by omega, h, rfl⟩))
      next hC =>
        split
        next h => exact .inr (.inr (.inr (.inl ⟨h, rfl⟩)))
        next hD =>
          split
          next h => exact .inr (.inr (.inr (.inr (.inl ⟨h, rfl⟩))))
          next hE =>
            split
            next h => exact .inr (.inr (.inr (.inr (.inr (.inl ⟨h, rfl⟩)))))
            next hF => exact .inr (.inr (.inr (.inr (.inr (.inr ⟨by omega, rfl⟩)))))

/-- The IRQ control register has two bits. -/
theorem irqControl_bits (data : UInt8) :
    (if data &&& 0x01 != 0 then 0x01 else 0) ||| (if data &&& 0x80 != 0 then 0x80 else 0) =
      data &&& 0x81 := by
  revert data
  exact forall_byte (by decide +kernel)

/-- Each half of the counter is loaded apart from the other. -/
theorem counter_halves (counter : UInt16) (data : UInt8) :
    let low := UInt16.ofNat (counter.toNat / 256 * 256 + data.toNat)
    let high := UInt16.ofNat (counter.toNat % 256 + data.toNat * 256)
    (low.toNat % 256 = data.toNat ∧ low.toNat / 256 = counter.toNat / 256) ∧
      high.toNat % 256 = counter.toNat % 256 ∧ high.toNat / 256 = data.toNat := by
  have hcounter := counter.toNat_lt
  have hdata := data.toNat_lt
  intro low high
  have hlow : low.toNat = counter.toNat / 256 * 256 + data.toNat :=
    UInt16.toNat_ofNat_of_lt' (show _ < 65536 by omega)
  have hhigh : high.toNat = counter.toNat % 256 + data.toNat * 256 :=
    UInt16.toNat_ofNat_of_lt' (show _ < 65536 by omega)
  omega

/-- The parameter in force keeps the bits that it has room for. -/
theorem register_load_self (chip : Fme7) (data : UInt8)
    (hselect : Board.fme7.IsSelect chip.command) :
    (chip.load data).register chip.command = data &&& Board.fme7.storedBits chip.command := by
  obtain ⟨⟨hlow, -⟩, -, hhigh⟩ := counter_halves chip.irqCounter data
  unfold register Board.storedBits
  rcases chip.load_cases data hselect with
    ⟨h, hload⟩ | ⟨h, hload⟩ | ⟨h8, h, hload⟩ | ⟨h, hload⟩ | ⟨h, hload⟩ | ⟨h, hload⟩ | ⟨h, hload⟩
  · have hle : chip.command.toNat ≤ 8 := by omega
    simp only [hload, dif_pos h, if_pos hle, Vector.getElem_set_self, Board.and_allBits]
  · simp only [hload, h]
    exact (Board.and_allBits data).symm
  · have hne : ¬ chip.command.toNat < 8 := by omega
    have hne' : chip.command.toNat ≠ 8 := by omega
    have hle : ¬ chip.command.toNat ≤ 8 := by omega
    have hlt : chip.command.toNat < 0xC := by omega
    simp only [hload, dif_neg hne, if_neg hne', dif_pos h, if_neg hle, if_pos hlt,
      Vector.getElem_set_self]
  · simp only [hload, h]
    rfl
  · simp only [hload, h]
    exact irqControl_bits data
  · simp only [hload, h]
    show UInt8.ofNat _ = data &&& 0xFF
    rw [hlow, UInt8.ofNat_toNat, Board.and_allBits]
  · simp only [hload, h]
    show UInt8.ofNat _ = data &&& 0xFF
    rw [hhigh, UInt8.ofNat_toNat, Board.and_allBits]

/-- The other parameters stay, also the other half of the counter. -/
theorem register_load_of_ne (chip : Fme7) (data : UInt8) {other : UInt8}
    (hselect : Board.fme7.IsSelect chip.command) (hother : Board.fme7.IsSelect other)
    (hne : other ≠ chip.command) : (chip.load data).register other = chip.register other := by
  obtain ⟨⟨-, hhigh⟩, hlow, -⟩ := counter_halves chip.irqCounter data
  have hle : other.toNat ≤ 15 := hother.toNat_le
  have hnumber : other.toNat ≠ chip.command.toNat := fun h => hne (UInt8.toNat_inj.mp h)
  unfold register
  rcases chip.load_cases data hselect with
    ⟨h, hload⟩ | ⟨h, hload⟩ | ⟨h8, h, hload⟩ | ⟨h, hload⟩ | ⟨h, hload⟩ | ⟨h, hload⟩ | ⟨h, hload⟩
  · rw [hload]
    dsimp only
    split
    · exact Vector.getElem_set_ne _ _ (Ne.symm hnumber)
    · rfl
  · rw [h] at hnumber
    rw [hload]
    simp only [if_neg hnumber]
  · rw [hload]
    dsimp only
    split
    · rfl
    · split
      · rfl
      · split
        · exact Vector.getElem_set_ne _ _ (by omega)
        · rfl
  · rw [h] at hnumber
    rw [hload]
    simp only [if_neg hnumber]
  · rw [h] at hnumber
    rw [hload]
    simp only [if_neg hnumber]
  · rw [h] at hnumber
    rw [hload]
    simp only [if_neg hnumber, hhigh]
  · rw [hload]
    dsimp only
    by_cases hE : other.toNat = 0xE
    · simp only [hE]
      exact congrArg UInt8.ofNat hlow
    · -- Only the last parameter is left out of the distinction, and it is the one written.
      have hbefore : other.toNat < 8 ∨ other.toNat = 8 ∨ (8 < other.toNat ∧ other.toNat - 9 < 3) ∨
          other.toNat = 0xC ∨ other.toNat = 0xD := by omega
      rcases hbefore with hm | hm | ⟨hm, hm'⟩ | hm | hm
      · rw [dif_pos hm, dif_pos hm]
      · simp only [hm]
        rfl
      · have hnot : ¬ other.toNat < 8 := by omega
        have hnot' : other.toNat ≠ 8 := by omega
        simp only [dif_neg hnot, if_neg hnot', dif_pos hm']
      · simp only [hm]
        rfl
      · simp only [hm]
        rfl

end Fme7

namespace Action53

/-- A mode that takes a screen bit keeps its other bits. -/
theorem mode_takeScreen (chip : Action53) (data : UInt8) :
    (chip.takeScreen data).mode &&& 0x3E = chip.mode &&& 0x3E := by
  have hall : ∀ mode : UInt8, ∀ bit < 2,
      UInt8.ofNat (mode.toNat / 2 * 2 + bit) &&& 0x3E = mode &&& 0x3E :=
    forall_byte (by decide +kernel)
  unfold takeScreen
  split
  · -- The screen bit replaces the low bit of the mode, which the mask leaves out.
    exact hall chip.mode (data.toNat / 16 % 2) (Nat.mod_lt _ (by decide))
  · rfl

/-- The screen bit goes nowhere but into the mode. -/
theorem takeScreen_fields (chip : Action53) (data : UInt8) :
    (chip.takeScreen data).chr = chip.chr ∧ (chip.takeScreen data).inner = chip.inner ∧
      (chip.takeScreen data).outer = chip.outer := by
  unfold takeScreen
  split <;> exact ⟨rfl, rfl, rfl⟩

/-- Without its screen bit a data write only loads the selected register. -/
theorem register_load (chip : Action53) (data : UInt8) {other : UInt8}
    (hselect : Board.action53.IsSelect chip.select) (hother : Board.action53.IsSelect other) :
    (chip.load data).register other =
      if other = chip.select then data &&& Board.action53.storedBits other
      else chip.register other := by
  obtain ⟨select, chr, inner, mode, outer⟩ := chip
  rcases Board.IsSelect.action53_cases hselect with rfl | rfl | rfl | rfl
  · rcases hother.action53_cases with rfl | rfl | rfl | rfl <;> rfl
  · rcases hother.action53_cases with rfl | rfl | rfl | rfl <;> rfl
  · rcases hother.action53_cases with rfl | rfl | rfl | rfl <;> rfl
  · rcases hother.action53_cases with rfl | rfl | rfl | rfl
    · rfl
    · rfl
    · rfl
    · exact (Board.and_allBits data).symm

/-- The screen bit reaches no register but the mode, and there only a bit that is not its own. -/
theorem register_takeScreen (chip : Action53) (data : UInt8) {other : UInt8}
    (hother : Board.action53.IsSelect other) :
    (chip.takeScreen data).register other &&& Board.action53.ownBits other =
      chip.register other &&& Board.action53.ownBits other := by
  obtain ⟨hchr, hinner, houter⟩ := chip.takeScreen_fields data
  rcases hother.action53_cases with rfl | rfl | rfl | rfl
  · exact congrArg (· &&& 0xFF) hchr
  · exact congrArg (· &&& 0xFF) hinner
  · exact chip.mode_takeScreen data
  · exact congrArg (· &&& 0xFF) houter

/-- The selected register keeps the bits that it has room for, whatever becomes of the screen. -/
theorem register_takeScreen_self (chip : Action53) (data : UInt8)
    (hselect : Board.action53.IsSelect chip.select) :
    ((chip.load data).takeScreen data).register chip.select =
      (chip.load data).register chip.select := by
  have hkept : (chip.load data).select = chip.select := Chip.select_load chip data
  obtain ⟨hchr, hinner, -⟩ := (chip.load data).takeScreen_fields data
  rcases hselect.action53_cases with hs | hs | hs | hs
  · rw [hs]
    exact hchr
  · rw [hs]
    exact hinner
  -- Mode and outer bank are data writes that carry no screen bit.
  · rw [takeScreen_of_select (by rw [hkept, hs]; decide)]
  · rw [takeScreen_of_select (by rw [hkept, hs]; decide)]

end Action53

/-- A data write is stored in the register that is selected, as far as that has room for it, and
moves nothing else of the other registers than the screen bit. -/
theorem Chip.Wired.register_write {board : Board} {solder : Mirroring} {chip : Chip}
    (h : chip.Wired board solder) {addr : UInt16} (haddr : board.dataAddr? = some addr)
    {select : UInt8} (hselect : chip.select? = some select) (hvalid : board.IsSelect select)
    (data : UInt8) :
    (chip.write addr data).register select = data &&& board.storedBits select ∧
      ∀ other, board.IsSelect other → other ≠ select →
        (chip.write addr data).register other &&& board.ownBits other =
          chip.register other &&& board.ownBits other := by
  cases h with
  | nrom | mmc1 | mmc2 | mmc4 => cases haddr
  | @mmc3 _ c =>
    cases haddr
    cases hselect
    refine ⟨?_, fun other hother hne => ?_⟩
    · have hself := c.register_write data hvalid hvalid
      rw [if_pos rfl] at hself
      exact hself.trans (Board.and_allBits data).symm
    · have hframe := c.register_write data hvalid hother
      rw [if_neg hne] at hframe
      exact congrArg (· &&& Board.mmc3.ownBits other) hframe
  | @action53 _ c =>
    cases haddr
    cases hselect
    refine ⟨?_, fun other hother hne => ?_⟩
    · have hself := c.register_load data hvalid hvalid
      rw [if_pos rfl] at hself
      exact (c.register_takeScreen_self data hvalid).trans hself
    · have hframe := c.register_load data hvalid hother
      rw [if_neg hne] at hframe
      have hscreen := (c.load data).register_takeScreen data hother
      rw [hframe] at hscreen
      exact hscreen
  | @fme7 _ c =>
    cases haddr
    cases hselect
    exact ⟨c.register_load_self data hvalid, fun other hother hne =>
      congrArg (· &&& Board.fme7.ownBits other) (c.register_load_of_ne data hvalid hother hne)⟩
  | discrete hlayout =>
    rw [Board.dataAddr?_eq_none hlayout] at haddr
    cases haddr

end NesCartridge
