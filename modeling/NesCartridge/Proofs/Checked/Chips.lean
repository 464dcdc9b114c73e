/-
  NesCartridge.Proofs.Checked.Chips

  The mapper chips with every step checked that can fail: the bank registers they index, the
  subtractions in their bank numbers, the bit count of MMC1 and the counter of MMC3. Each does what
  the plain chip does, whatever its registers hold, as long as MMC1 has not collected five bits
  (`Chip.Steady`); no access lets it come to that.
-/
import NesCartridge.Chip
import NesCartridge.Proofs.Checked.Arithmetic

namespace NesCartridge

open Checked

/-! ## MMC1 -/

namespace Mmc1

def checkedPrgBank (chip : Mmc1) (prgSize : Nat) (addr : UInt16) : Checked Nat :=
  let bank := chip.prg.toNat % 16
  let upper := 0xC000 ≤ addr.toNat
  match chip.control.toNat / 4 % 4 with
  | 2 => return if upper then bank else 0
  | 3 => if upper then checkedLastBank prgSize 0x4000 else return bank
  | _ => return bank / 2 * 2 + (if upper then 1 else 0)

def checkedCpuTarget (chip : Mmc1) (prgSize : Nat) (addr : UInt16) : Checked CpuTarget := do
  if inWram addr then return if chip.wramEnabled then .wram true else .openBus
  else if 0x8000 ≤ addr.toNat then return .prg ⟨← chip.checkedPrgBank prgSize addr, 0x4000⟩
  else return .openBus

/-- The count of collected bits is a byte. -/
def checkedShiftIn (chip : Mmc1) (addr : UInt16) (data : UInt8) : Checked Mmc1 := do
  let shift := (chip.shift >>> 1) ||| ((data &&& 1) <<< 4)
  let count ← fit 0x100 (chip.count + 1)
  if count < 5 then return { chip with shift, count }
  else return { chip.load addr (shift &&& 0x1F) with shift := 0, count := 0 }

def checkedWrite (chip : Mmc1) (addr : UInt16) (data : UInt8) : Checked Mmc1 :=
  if addr.toNat < 0x8000 then return chip
  else if data &&& 0x80 ≠ 0 then return chip.dropBits
  else chip.checkedShiftIn addr data

theorem checkedPrgBank_eq (chip : Mmc1) (prgSize : Nat) (addr : UInt16) :
    chip.checkedPrgBank prgSize addr = .ok (chip.prgBank prgSize addr) := by
  have hmode : chip.control.toNat / 4 % 4 < 4 := Nat.mod_lt _ (by decide)
  rw [checkedPrgBank, prgBank, checkedLastBank_eq]
  generalize chip.control.toNat / 4 % 4 = mode at hmode
  obtain rfl | rfl | rfl | rfl : mode = 0 ∨ mode = 1 ∨ mode = 2 ∨ mode = 3 := by omega
  case inr.inr.inr =>
    show (if 0xC000 ≤ addr.toNat then Except.ok _ else Except.ok _) = Except.ok (ite _ _ _)
    split <;> rfl
  all_goals rfl

theorem checkedCpuTarget_eq (chip : Mmc1) (prgSize : Nat) (addr : UInt16) :
    chip.checkedCpuTarget prgSize addr = .ok (chip.cpuTarget prgSize addr) := by
  rw [checkedCpuTarget, cpuTarget, checkedPrgBank_eq]
  split
  next => rfl
  next => split <;> rfl

theorem checkedWrite_eq {chip : Mmc1} (h : chip.count < 5) (addr : UInt16) (data : UInt8) :
    chip.checkedWrite addr data = .ok (chip.write addr data) := by
  have hcount : chip.count + 1 < 0x100 := by omega
  rw [checkedWrite, write, checkedShiftIn, shiftIn, fit_eq hcount, ok_bind]
  repeat' split
  all_goals rfl

/-- The fifth bit empties the port. -/
theorem count_write {chip : Mmc1} (h : chip.count < 5) (addr : UInt16) (data : UInt8) :
    (chip.write addr data).count < 5 := by
  unfold write
  split
  next => exact h
  next =>
    split
    next => exact Nat.zero_lt_succ 4
    next =>
      unfold shiftIn
      dsimp only
      split
      next hnext => exact hnext
      next => exact Nat.zero_lt_succ 4

end Mmc1

/-! ## MMC3 -/

namespace Mmc3

def checkedPrgBank (chip : Mmc3) (prgSize slot : Nat) : Checked Nat := do
  let last ← checkedLastBank prgSize 0x2000
  -- This subtraction stays at zero by itself.
  let secondLast := last - 1
  let r6 := (← pick chip.banks.get 6).toNat % 64
  let r7 := (← pick chip.banks.get 7).toNat % 64
  match slot with
  | 0 => return if chip.prgSwapped then secondLast else r6
  | 1 => return r7
  | 2 => return if chip.prgSwapped then r6 else secondLast
  | _ => return last

/-- Slots are counted from `$8000`. -/
def checkedCpuTarget (chip : Mmc3) (prgSize : Nat) (addr : UInt16) : Checked CpuTarget := do
  if inWram addr then
    return if chip.wramEnabled then .wram (!chip.wramProtected) else .openBus
  else if 0x8000 ≤ addr.toNat then
    let slot := (← sub addr.toNat 0x8000) / 0x2000
    return .prg ⟨← chip.checkedPrgBank prgSize slot, 0x2000⟩
  else return .openBus

/-- R0 and R1 have two slots each, the registers behind them one. -/
def checkedChrBank (chip : Mmc3) (addr : UInt16) : Checked Nat := do
  let slot := addr.toNat / 0x400 % 8
  let slot := if chip.chrInverted then (slot + 4) % 8 else slot
  if slot < 4 then return (← pick chip.banks.get (slot / 2)).toNat / 2 * 2 + slot % 2
  else return (← pick chip.banks.get (← sub slot 2)).toNat

/-- Of all registers only the bank registers are indexed. -/
def checkedWrite (chip : Mmc3) (addr : UInt16) (data : UInt8) : Checked Mmc3 := do
  if 0x8000 ≤ addr.toNat ∧ addr.toNat < 0xA000 ∧ addr.toNat % 2 = 1 then
    return { chip with banks := ← put chip.banks (chip.bankSelect.toNat % 8) data }
  else return chip.write addr data

def checkedClockIrq (chip : Mmc3) : Checked Mmc3 := do
  let counter ←
    if chip.irqCounter = 0 ∨ chip.irqReload then pure chip.irqLatch
    else pure (UInt8.ofNat (← sub chip.irqCounter.toNat 1))
  return { chip with
    irqCounter := counter
    irqReload := false
    irqPending := chip.irqPending || (counter = 0 && chip.irqEnabled) }

def checkedFetched (chip : Mmc3) (addr : UInt16) : Checked Mmc3 := do
  let a12 : Bool := addr.toNat / 0x1000 % 2 = 1
  let clocked ← if a12 && !chip.a12 then chip.checkedClockIrq else pure chip
  return { clocked with a12 }

theorem checkedPrgBank_eq (chip : Mmc3) (prgSize slot : Nat) :
    chip.checkedPrgBank prgSize slot = .ok (chip.prgBank prgSize slot) := by
  rw [checkedPrgBank, checkedLastBank_eq, pick_eq _ (by decide : 6 < 8),
    pick_eq _ (by decide : 7 < 8)]
  match slot with
  | 0 | 1 | 2 | _ + 3 => rfl

theorem checkedCpuTarget_eq (chip : Mmc3) (prgSize : Nat) (addr : UInt16) :
    chip.checkedCpuTarget prgSize addr = .ok (chip.cpuTarget prgSize addr) := by
  rw [checkedCpuTarget, cpuTarget]
  split
  next => rfl
  next =>
    split
    next haddr =>
      have hslot : (addr.toNat - 0x8000) / 0x2000 = addr.toNat / 0x2000 % 4 := by
        have := addr.toNat_lt
        omega
      rw [sub_eq haddr, ok_bind]
      simp only [hslot, checkedPrgBank_eq]
      rfl
    next => rfl

theorem checkedChrBank_eq (chip : Mmc3) (addr : UInt16) :
    chip.checkedChrBank addr = .ok (chip.chrBank addr) := by
  rw [checkedChrBank, chrBank]
  have hlt : (if chip.chrInverted then (addr.toNat / 0x400 % 8 + 4) % 8
      else addr.toNat / 0x400 % 8) < 8 := by split <;> omega
  generalize (if chip.chrInverted then (addr.toNat / 0x400 % 8 + 4) % 8
      else addr.toNat / 0x400 % 8) = slot at hlt
  obtain rfl | rfl | rfl | rfl | rfl | rfl | rfl | rfl : slot = 0 ∨ slot = 1 ∨ slot = 2 ∨
    slot = 3 ∨ slot = 4 ∨ slot = 5 ∨ slot = 6 ∨ slot = 7 := by omega
  all_goals rfl

theorem checkedWrite_eq (chip : Mmc3) (addr : UInt16) (data : UInt8) :
    chip.checkedWrite addr data = .ok (chip.write addr data) := by
  rw [checkedWrite]
  split
  next haddr =>
    obtain ⟨hle, hlt, hodd⟩ := haddr
    have hregister : chip.bankSelect.toNat % 8 < 8 := Nat.mod_lt _ (by decide)
    rw [put_eq _ hregister, ok_bind, write, if_neg (by omega), if_pos hlt, if_neg (by omega)]
    rfl
  next => rfl

theorem checkedClockIrq_eq (chip : Mmc3) : chip.checkedClockIrq = .ok chip.clockIrq := by
  rw [checkedClockIrq, clockIrq]
  split
  next => rfl
  next hcount =>
    have hpos : 1 ≤ chip.irqCounter.toNat := by
      have hne : chip.irqCounter.toNat ≠ 0 :=
        fun hzero => hcount (Or.inl (UInt8.toNat_inj.mp hzero))
      omega
    have hless : UInt8.ofNat (chip.irqCounter.toNat - 1) = chip.irqCounter - 1 := by
      rw [UInt8.ofNat_sub hpos, UInt8.ofNat_toNat]
      rfl
    rw [sub_eq hpos, ok_bind, hless]
    rfl

theorem checkedFetched_eq (chip : Mmc3) (addr : UInt16) :
    chip.checkedFetched addr = .ok (chip.fetched addr) := by
  rw [checkedFetched, fetched, checkedClockIrq_eq]
  split <;> rfl

end Mmc3

/-! ## MMC2 and MMC4 -/

namespace Mmc2

def checkedPrgRef (chip : Mmc2) (prgSize : Nat) (addr : UInt16) : Checked BankRef := do
  if chip.isMmc4 then
    if addr.toNat < 0xC000 then return ⟨chip.prg.toNat, 0x4000⟩
    else return ⟨← checkedLastBank prgSize 0x4000, 0x4000⟩
  else if addr.toNat < 0xA000 then return ⟨chip.prg.toNat, 0x2000⟩
  else
    -- The first subtraction stays at zero by itself.
    let slot := (← sub addr.toNat 0x8000) / 0x2000
    return ⟨← fit sizeLimit (bankCount prgSize 0x2000 - 4 + slot), 0x2000⟩

def checkedCpuTarget (chip : Mmc2) (prgSize wramSize : Nat) (addr : UInt16) :
    Checked CpuTarget := do
  if inWram addr then return if 0 < wramSize then .wram true else .openBus
  else if 0x8000 ≤ addr.toNat then return .prg (← chip.checkedPrgRef prgSize addr)
  else return .openBus

/-- Two tables by half of pattern memory, and in the second one by latch. -/
def checkedChrBank (chip : Mmc2) (addr : UInt16) : Checked Nat := do
  let half := addr.toNat / 0x1000 % 2
  let column := match ← pick [chip.low.latch, chip.high.latch].get half with
    | .fd => 0
    | .fe => 1
  let row ← pick [[chip.low.fd, chip.low.fe], [chip.high.fd, chip.high.fe]].get half
  return (← pick row.get column).toNat

theorem checkedPrgRef_eq (chip : Mmc2) {prgSize : Nat} (hlimit : prgSize < sizeLimit)
    (addr : UInt16) : chip.checkedPrgRef prgSize addr = .ok (chip.prgRef prgSize addr) := by
  rw [checkedPrgRef, prgRef, checkedLastBank_eq]
  split
  next => split <;> rfl
  next =>
    split
    next => rfl
    next haddr =>
      have hsum : bankCount prgSize 0x2000 - 4 + (addr.toNat - 0x8000) / 0x2000 < sizeLimit := by
        have hcount := bankCount_le prgSize 0x2000
        have := addr.toNat_lt
        have hroom : 4 < sizeLimit := by decide
        omega
      rw [sub_eq (by omega), ok_bind]
      exact congrArg (· >>= _) (fit_eq hsum)

theorem checkedCpuTarget_eq (chip : Mmc2) {prgSize : Nat} (hlimit : prgSize < sizeLimit)
    (wramSize : Nat) (addr : UInt16) :
    chip.checkedCpuTarget prgSize wramSize addr = .ok (chip.cpuTarget prgSize wramSize addr) := by
  rw [checkedCpuTarget, cpuTarget, checkedPrgRef_eq chip hlimit]
  split
  next => rfl
  next => split <;> rfl

theorem checkedChrBank_eq (chip : Mmc2) (addr : UInt16) :
    chip.checkedChrBank addr = .ok (chip.chrBank addr) := by
  rw [checkedChrBank, chrBank, half]
  rcases Nat.mod_two_eq_zero_or_one (addr.toNat / 0x1000) with hhalf | hhalf
  · rw [hhalf, if_pos rfl, PatternHalf.current]
    cases hlatch : chip.low.latch <;> rfl
  · rw [hhalf, if_neg (by decide), PatternHalf.current]
    cases hlatch : chip.high.latch <;> rfl

end Mmc2

/-! ## Action 53 -/

namespace Action53

def checkedPrgBank (chip : Action53) (addr : UInt16) : Checked Nat := do
  let span ← shiftLeft 64 2 (chip.mode.toNat / 16 % 4)
  let mask ← sub span 1
  let upper := addr.toNat / 0x4000 % 2 = 1
  let inner := match chip.mode.toNat / 4 % 4 with
    | 2 => if upper then chip.inner.toNat else 0
    | 3 => if upper then mask else chip.inner.toNat
    | _ => chip.inner.toNat * 2 + (if upper then 1 else 0)
  -- The outer bank gives the bits above the mask, the inner bank those below.
  return chip.outer.toNat * 2 / span * span + inner % span

def checkedCpuTarget (chip : Action53) (addr : UInt16) : Checked CpuTarget := do
  if 0x8000 ≤ addr.toNat then return .prg ⟨← chip.checkedPrgBank addr, 0x4000⟩
  else return .openBus

theorem checkedPrgBank_eq (chip : Action53) (addr : UInt16) :
    chip.checkedPrgBank addr = .ok (chip.prgBank addr) := by
  have hsize : chip.mode.toNat / 16 % 4 < 64 := by omega
  have hspan : shiftLeft 64 2 (chip.mode.toNat / 16 % 4) = .ok chip.outerSpan :=
    shiftLeft_eq hsize 2
  rw [checkedPrgBank, prgBank, innerBank, hspan, ok_bind, sub_eq chip.outerSpan_pos]
  rfl

theorem checkedCpuTarget_eq (chip : Action53) (addr : UInt16) :
    chip.checkedCpuTarget addr = .ok (chip.cpuTarget addr) := by
  rw [checkedCpuTarget, cpuTarget, checkedPrgBank_eq]
  split <;> rfl

end Action53

/-! ## FME-7 -/

namespace Fme7

/-- CHR and PRG banks are indexed by the command. -/
def checkedLoad (chip : Fme7) (data : UInt8) : Checked Fme7 := do
  let command := chip.command.toNat
  if command < 8 then
    return { chip with chr := ← put chip.chr command data }
  else if 9 ≤ command ∧ command ≤ 0xB then
    return { chip with prg := ← put chip.prg (← sub command 9) (data &&& 0x3F) }
  else return chip.load data

def checkedWrite (chip : Fme7) (addr : UInt16) (data : UInt8) : Checked Fme7 :=
  if 0xA000 ≤ addr.toNat ∧ addr.toNat < 0xC000 then chip.checkedLoad data
  else return chip.write addr data

def checkedCpuTarget (chip : Fme7) (prgSize : Nat) (addr : UInt16) : Checked CpuTarget := do
  if inWram addr then return chip.lowTarget
  else if addr.toNat < 0x8000 then return .openBus
  else if addr.toNat < 0xE000 then
    let slot := (← sub addr.toNat 0x8000) / 0x2000
    return .prg ⟨(← pick chip.prg.get slot).toNat, 0x2000⟩
  else return .prg ⟨← checkedLastBank prgSize 0x2000, 0x2000⟩

def checkedChrBank (chip : Fme7) (addr : UInt16) : Checked Nat :=
  return (← pick chip.chr.get (addr.toNat / 0x400)).toNat

theorem checkedLoad_eq (chip : Fme7) (data : UInt8) :
    chip.checkedLoad data = .ok (chip.load data) := by
  rw [checkedLoad, load]
  split
  next hchr => rw [put_eq _ hchr, ok_bind]; rfl
  next hchr =>
    split
    next hprg =>
      have hslot : chip.command.toNat - 9 < 3 := by omega
      rw [sub_eq hprg.1, ok_bind, put_eq _ hslot, ok_bind, if_neg (by omega), dif_pos hslot]
      rfl
    next => rfl

theorem checkedWrite_eq (chip : Fme7) (addr : UInt16) (data : UInt8) :
    chip.checkedWrite addr data = .ok (chip.write addr data) := by
  rw [checkedWrite]
  split
  next haddr => rw [checkedLoad_eq, write, if_neg (by omega), if_neg (by omega), if_pos haddr.2]
  next => rfl

theorem checkedCpuTarget_eq (chip : Fme7) (prgSize : Nat) (addr : UInt16) :
    chip.checkedCpuTarget prgSize addr = .ok (chip.cpuTarget prgSize addr) := by
  rw [checkedCpuTarget, cpuTarget, checkedLastBank_eq]
  split
  next => rfl
  next =>
    split
    next => rfl
    next hupper =>
      dsimp only
      split
      next hbanked =>
        have hslot : (addr.toNat - 0x8000) / 0x2000 < 3 := by omega
        rw [sub_eq (by omega), ok_bind, pick_eq _ hslot, dif_pos hslot]
        rfl
      next hfixed =>
        have hslot : ¬ (addr.toNat - 0x8000) / 0x2000 < 3 := by omega
        rw [dif_neg hslot]
        rfl

/-- Pattern addresses end where the bank registers do. -/
theorem checkedChrBank_eq (chip : Fme7) {addr : UInt16} (haddr : addr.toNat < 0x2000) :
    chip.checkedChrBank addr = .ok (chip.chrBank addr) := by
  have hslot : addr.toNat / 0x400 < 8 := by omega
  have hwrap : Fin.ofNat 8 (addr.toNat / 0x400) = ⟨addr.toNat / 0x400, hslot⟩ :=
    Fin.ext (Nat.mod_eq_of_lt hslot)
  rw [checkedChrBank, chrBank, hwrap, pick_eq _ hslot]
  rfl

/-- There is no register for an address past pattern memory. -/
example : ({} : Fme7).checkedChrBank 0x2000 = .error (.index 8 8) := rfl

end Fme7

/-! ## Discrete boards -/

namespace Discrete

def checkedPrgRef (chip : Discrete) (prgSize : Nat) (addr : UInt16) : Checked BankRef := do
  let bank := (chip.layout.prg.extract chip.latch).toNat
  if chip.prg16k then
    if addr.toNat < 0xC000 then return ⟨bank, 0x4000⟩
    else return ⟨← checkedLastBank prgSize 0x4000, 0x4000⟩
  else return ⟨bank, 0x8000⟩

def checkedCpuTarget (chip : Discrete) (prgSize : Nat) (addr : UInt16) : Checked CpuTarget := do
  if 0x8000 ≤ addr.toNat then return .prg (← chip.checkedPrgRef prgSize addr)
  else return .openBus

theorem checkedPrgRef_eq (chip : Discrete) (prgSize : Nat) (addr : UInt16) :
    chip.checkedPrgRef prgSize addr = .ok (chip.prgRef prgSize addr) := by
  rw [checkedPrgRef, prgRef, checkedLastBank_eq]
  split
  next => split <;> rfl
  next => rfl

theorem checkedCpuTarget_eq (chip : Discrete) (prgSize : Nat) (addr : UInt16) :
    chip.checkedCpuTarget prgSize addr = .ok (chip.cpuTarget prgSize addr) := by
  rw [checkedCpuTarget, cpuTarget, checkedPrgRef_eq]
  split <;> rfl

end Discrete

/-! ## Any chip -/

namespace Chip

/-- The serial port of MMC1 is not full. -/
def Steady : Chip → Prop
  | mmc1 c => c.count < 5
  | _ => True

def checkedCpuTarget (chip : Chip) (prgSize wramSize : Nat) (addr : UInt16) :
    Checked CpuTarget :=
  match chip with
  | mmc1 c => c.checkedCpuTarget prgSize addr
  | mmc2 c => c.checkedCpuTarget prgSize wramSize addr
  | mmc3 c => c.checkedCpuTarget prgSize addr
  | action53 c => c.checkedCpuTarget addr
  | fme7 c => c.checkedCpuTarget prgSize addr
  | discrete c => c.checkedCpuTarget prgSize addr
  | nrom solder => return (nrom solder).cpuTarget prgSize wramSize addr

def checkedChrRef (chip : Chip) (addr : UInt16) : Checked BankRef := do
  match chip with
  | mmc2 c => return ⟨← c.checkedChrBank addr, 0x1000⟩
  | mmc3 c => return ⟨← c.checkedChrBank addr, 0x400⟩
  | fme7 c => return ⟨← c.checkedChrBank addr, 0x400⟩
  -- The others have a register per half of pattern memory, or one.
  | other => return other.chrRef addr

def checkedWrite (chip : Chip) (addr : UInt16) (data : UInt8) : Checked Chip := do
  match chip with
  | mmc1 c => return .mmc1 (← c.checkedWrite addr data)
  | mmc3 c => return .mmc3 (← c.checkedWrite addr data)
  | fme7 c => return .fme7 (← c.checkedWrite addr data)
  | other => return other.write addr data

def checkedFetched (chip : Chip) (addr : UInt16) : Checked Chip := do
  match chip with
  | mmc3 c => return .mmc3 (← c.checkedFetched addr)
  | other => return other.fetched addr

variable {chip : Chip}

theorem checkedCpuTarget_eq (chip : Chip) {prgSize : Nat} (hlimit : prgSize < sizeLimit)
    (wramSize : Nat) (addr : UInt16) :
    chip.checkedCpuTarget prgSize wramSize addr = .ok (chip.cpuTarget prgSize wramSize addr) := by
  cases chip with
  | nrom solder => rfl
  | mmc1 c => exact c.checkedCpuTarget_eq prgSize addr
  | mmc2 c => exact c.checkedCpuTarget_eq hlimit wramSize addr
  | mmc3 c => exact c.checkedCpuTarget_eq prgSize addr
  | action53 c => exact c.checkedCpuTarget_eq addr
  | fme7 c => exact c.checkedCpuTarget_eq prgSize addr
  | discrete c => exact c.checkedCpuTarget_eq prgSize addr

theorem checkedChrRef_eq (chip : Chip) {addr : UInt16} (haddr : addr.toNat < 0x2000) :
    chip.checkedChrRef addr = .ok (chip.chrRef addr) := by
  cases chip with
  | mmc2 c => rw [checkedChrRef, c.checkedChrBank_eq]; rfl
  | mmc3 c => rw [checkedChrRef, c.checkedChrBank_eq]; rfl
  | fme7 c => rw [checkedChrRef, c.checkedChrBank_eq haddr]; rfl
  | nrom | mmc1 | action53 | discrete => rfl

theorem checkedWrite_eq (h : chip.Steady) (addr : UInt16) (data : UInt8) :
    chip.checkedWrite addr data = .ok (chip.write addr data) := by
  cases chip with
  | mmc1 c => rw [checkedWrite, Mmc1.checkedWrite_eq h]; rfl
  | mmc3 c => rw [checkedWrite, c.checkedWrite_eq]; rfl
  | fme7 c => rw [checkedWrite, c.checkedWrite_eq]; rfl
  | nrom | mmc2 | action53 | discrete => rfl

theorem checkedFetched_eq (chip : Chip) (addr : UInt16) :
    chip.checkedFetched addr = .ok (chip.fetched addr) := by
  cases chip with
  | mmc3 c => rw [checkedFetched, c.checkedFetched_eq]; rfl
  | nrom | mmc1 | mmc2 | action53 | fme7 | discrete => rfl

theorem steady_powerOn (board : Board) (solder : Mirroring) : (powerOn board solder).Steady := by
  cases board with
  | mmc1 => exact Nat.zero_lt_succ 4
  | _ => exact trivial

namespace Steady

theorem write (h : chip.Steady) (addr : UInt16) (data : UInt8) :
    (chip.write addr data).Steady := by
  cases chip with
  | mmc1 c => exact Mmc1.count_write h addr data
  | _ => exact trivial

theorem fetched (h : chip.Steady) (addr : UInt16) : (chip.fetched addr).Steady := by
  cases chip with
  | mmc1 c => exact h
  | _ => exact trivial

theorem clock (h : chip.Steady) : chip.clock.Steady := by
  cases chip with
  | mmc1 c => exact h
  | _ => exact trivial

end Steady

/-! ### Bank sizes -/

theorem size_chrRef (chip : Chip) (addr : UInt16) :
    0 < (chip.chrRef addr).size ∧ (chip.chrRef addr).size < sizeLimit := by
  cases chip <;> exact ⟨Nat.succ_pos _, of_decide_eq_true rfl⟩

/-- Windows onto PRG memory have 8, 16 or 32 KiB. -/
theorem size_mem_of_prg (chip : Chip) {prgSize wramSize : Nat} {addr : UInt16} {ref : BankRef}
    (h : chip.cpuTarget prgSize wramSize addr = .prg ref) :
    ref.size ∈ [0x2000, 0x4000, 0x8000] := by
  cases chip
  all_goals
    simp only [cpuTarget, Mmc1.cpuTarget, Mmc2.cpuTarget, Mmc2.prgRef, Mmc3.cpuTarget,
      Action53.cpuTarget, Fme7.cpuTarget, Fme7.lowTarget, Discrete.cpuTarget,
      Discrete.prgRef] at h
    repeat' split at h
  all_goals cases h
  all_goals simp

theorem size_prgRef (chip : Chip) {prgSize wramSize : Nat} {addr : UInt16} {ref : BankRef}
    (h : chip.cpuTarget prgSize wramSize addr = .prg ref) :
    0 < ref.size ∧ ref.size < sizeLimit := by
  have hsizes : ∀ size ∈ [0x2000, 0x4000, 0x8000], 0 < size ∧ size < sizeLimit := by decide
  exact hsizes ref.size (chip.size_mem_of_prg h)

end Chip

end NesCartridge
