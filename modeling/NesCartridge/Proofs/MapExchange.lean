/-
  NesCartridge.Proofs.MapExchange

  The two bits of the MMC3 select register that exchange parts of the address map. Take two boards
  that differ in one of the bits and in nothing else: what one shows at an address the other shows
  at the address that the exchange leads to (`Exchange.place`), and all other addresses show the
  same. Whatever is written afterwards, except to the select register, keeps it so, if stores to
  pattern memory go through the same exchange. Main statement: `exchanged_maps_stay_exchanged`.
-/
import NesCartridge.Proofs.BitField
import NesCartridge.Proofs.PrgDecoding

namespace NesCartridge

namespace Mmc3

/-- What a bit of the select register exchanges. -/
inductive Exchange where
  /-- The two halves of pattern memory. -/
  | patternHalves
  /-- The PRG slots at `$8000` and `$C000`. -/
  | prgSlots
  deriving DecidableEq

namespace Exchange

def bit : Exchange → UInt8
  | patternHalves => 0x80
  | prgSlots => 0x40

/-- Where what is at an address is found once the bit is flipped. -/
def place : Exchange → UInt16 → UInt16
  | patternHalves, addr => if addr.toNat < 0x2000 then addr ^^^ 0x1000 else addr
  | prgSlots, addr =>
    if addr.toNat / 0x2000 = 4 then addr + 0x4000
    else if addr.toNat / 0x2000 = 6 then addr - 0x4000
    else addr

end Exchange

/-- The chip with the bit of an exchange flipped. -/
def flip (chip : Mmc3) (exchange : Exchange) : Mmc3 :=
  { chip with bankSelect := chip.bankSelect ^^^ exchange.bit }

variable (chip : Mmc3) (exchange : Exchange) (addr : UInt16)

/-! ## The select register -/

/-- Each exchange flips its own bit, and neither of them changes which register is named. -/
theorem select_xor_bit (select : UInt8) :
    bankRegister (select ^^^ exchange.bit) = bankRegister select ∧
      ((select ^^^ exchange.bit) &&& 0x80 != 0) =
        ((select &&& 0x80 != 0) ^^ decide (exchange = .patternHalves)) ∧
      ((select ^^^ exchange.bit) &&& 0x40 != 0) =
        ((select &&& 0x40 != 0) ^^ decide (exchange = .prgSlots)) := by
  revert select
  apply forall_byte
  cases exchange <;> decide +kernel

theorem bankRegister_flip :
    bankRegister (chip.flip exchange).bankSelect = bankRegister chip.bankSelect :=
  (select_xor_bit exchange chip.bankSelect).1

theorem chrInverted_flip :
    (chip.flip exchange).chrInverted =
      (chip.chrInverted ^^ decide (exchange = .patternHalves)) :=
  (select_xor_bit exchange chip.bankSelect).2.1

theorem prgSwapped_flip :
    (chip.flip exchange).prgSwapped = (chip.prgSwapped ^^ decide (exchange = .prgSlots)) :=
  (select_xor_bit exchange chip.bankSelect).2.2

/-! ## Addresses -/

namespace Exchange

/-- Line 12 turned over leads to the other half. -/
theorem patternHalves_place (addr : UInt16) :
    (addr.toNat < 0x2000 ∧ (patternHalves.place addr).toNat = (addr.toNat + 0x1000) % 0x2000) ∨
      (0x2000 ≤ addr.toNat ∧ (patternHalves.place addr).toNat = addr.toNat) := by
  by_cases h : addr.toNat < 0x2000
  · have hdiv : (addr.toNat ^^^ 2 ^ 12) / 2 ^ 12 = addr.toNat / 2 ^ 12 ^^^ 1 :=
      Nat.xor_div_two_pow ..
    have hmod : (addr.toNat ^^^ 2 ^ 12) % 2 ^ 12 = addr.toNat % 2 ^ 12 ^^^ 0 :=
      Nat.xor_mod_two_pow ..
    have hplace : (patternHalves.place addr).toNat = addr.toNat ^^^ 2 ^ 12 :=
      congrArg UInt16.toNat (if_pos h)
    have hhalf : addr.toNat / 2 ^ 12 = 0 ∨ addr.toNat / 2 ^ 12 = 1 := by omega
    rw [Nat.xor_zero] at hmod
    refine Or.inl ⟨h, ?_⟩
    -- The quotient is the number of the half, and the remainder stays.
    rcases hhalf with hlow | hhigh
    · rw [hlow, show 0 ^^^ 1 = 1 from rfl] at hdiv
      omega
    · rw [hhigh, show 1 ^^^ 1 = 0 from rfl] at hdiv
      omega
  · exact Or.inr ⟨by omega, congrArg UInt16.toNat (if_neg h)⟩

theorem prgSlots_place (addr : UInt16) :
    (addr.toNat / 0x2000 = 4 ∧ (prgSlots.place addr).toNat = addr.toNat + 0x4000) ∨
      (addr.toNat / 0x2000 = 6 ∧ (prgSlots.place addr).toNat + 0x4000 = addr.toNat) ∨
      (addr.toNat / 0x2000 ≠ 4 ∧ addr.toNat / 0x2000 ≠ 6 ∧
        (prgSlots.place addr).toNat = addr.toNat) := by
  have hstep : (0x4000 : UInt16).toNat = 0x4000 := rfl
  rw [place]
  by_cases hlow : addr.toNat / 0x2000 = 4
  · rw [if_pos hlow, UInt16.toNat_add, hstep]
    omega
  · rw [if_neg hlow]
    by_cases hhigh : addr.toNat / 0x2000 = 6
    · rw [if_pos hhigh, UInt16.toNat_sub, hstep]
      omega
    · rw [if_neg hhigh]
      exact Or.inr (Or.inr ⟨hlow, hhigh, rfl⟩)

variable (exchange : Exchange) (addr : UInt16)

/-- Pattern memory stays in its range and the PRG slots in theirs; what is between stays put. -/
theorem place_range :
    ((exchange.place addr).toNat < 0x2000 ↔ addr.toNat < 0x2000) ∧
      (0x8000 ≤ (exchange.place addr).toNat ↔ 0x8000 ≤ addr.toNat) ∧
      (0x2000 ≤ addr.toNat → addr.toNat < 0x8000 →
        (exchange.place addr).toNat = addr.toNat) := by
  cases exchange with
  | patternHalves =>
    have := patternHalves_place addr
    omega
  | prgSlots =>
    have := prgSlots_place addr
    omega

theorem place_of_between {addr : UInt16} (hlow : 0x2000 ≤ addr.toNat)
    (hhigh : addr.toNat < 0x8000) : exchange.place addr = addr :=
  UInt16.toNat_inj.mp ((exchange.place_range addr).2.2 hlow hhigh)

/-- Made twice an exchange is undone. -/
theorem place_place : exchange.place (exchange.place addr) = addr := by
  apply UInt16.toNat_inj.mp
  cases exchange with
  | patternHalves =>
    have hthere := patternHalves_place addr
    have hback := patternHalves_place (patternHalves.place addr)
    omega
  | prgSlots =>
    have hthere := prgSlots_place addr
    have hback := prgSlots_place (prgSlots.place addr)
    omega

/-- Banks are moved whole. -/
theorem place_mod :
    (exchange.place addr).toNat % 0x400 = addr.toNat % 0x400 ∧
      (0x8000 ≤ addr.toNat → (exchange.place addr).toNat % 0x2000 = addr.toNat % 0x2000) := by
  cases exchange with
  | patternHalves =>
    have := patternHalves_place addr
    omega
  | prgSlots =>
    have := prgSlots_place addr
    omega

end Exchange

/-! ## Banks -/

open Exchange

/-- The bank of a pattern address moves with it. -/
theorem chrBank_flip_place (h : addr.toNat < 0x2000) :
    (chip.flip exchange).chrBank (exchange.place addr) = chip.chrBank addr := by
  rw [chrBank, chrBank, chrInverted_flip]
  refine congrArg chip.chrSlotBank ?_
  cases exchange with
  | patternHalves =>
    have hplace := patternHalves_place addr
    cases chip.chrInverted with
    | false =>
      show ((patternHalves.place addr).toNat / 0x400 % 8 + 4) % 8 = addr.toNat / 0x400 % 8
      omega
    | true =>
      show (patternHalves.place addr).toNat / 0x400 % 8 = (addr.toNat / 0x400 % 8 + 4) % 8
      omega
  | prgSlots =>
    have hplace : (prgSlots.place addr).toNat = addr.toNat := by
      have := prgSlots_place addr
      omega
    rw [hplace]
    cases chip.chrInverted <;> rfl

/-- So does the bank of a PRG slot, however few banks there are. -/
theorem prgBank_flip_place (h : 0x8000 ≤ addr.toNat) (prgSize : Nat) :
    (chip.flip exchange).prgBank prgSize ((exchange.place addr).toNat / 0x2000 % 4) =
      chip.prgBank prgSize (addr.toNat / 0x2000 % 4) := by
  have hswapped := chip.prgSwapped_flip exchange
  cases exchange with
  | patternHalves =>
    have hplace : (patternHalves.place addr).toNat = addr.toNat := by
      have := patternHalves_place addr
      omega
    have hsame : (chip.flip patternHalves).prgSwapped = chip.prgSwapped :=
      hswapped.trans (Bool.xor_false _)
    rw [hplace]
    simp only [prgBank, hsame]
    rfl
  | prgSlots =>
    have hother : (chip.flip prgSlots).prgSwapped = !chip.prgSwapped :=
      hswapped.trans (Bool.xor_true _)
    have hplace := prgSlots_place addr
    have hslots := addr.toNat_lt
    -- The slots at `$A000` and `$E000` do not look at the bit; the other two change sides.
    obtain h4 | h5 | h6 | h7 : addr.toNat / 0x2000 = 4 ∨ addr.toNat / 0x2000 = 5 ∨
        addr.toNat / 0x2000 = 6 ∨ addr.toNat / 0x2000 = 7 := by omega
    · rw [show (prgSlots.place addr).toNat / 0x2000 % 4 = 2 by omega,
        show addr.toNat / 0x2000 % 4 = 0 by omega]
      simp only [prgBank, hother]
      cases chip.prgSwapped <;> rfl
    · rw [show (prgSlots.place addr).toNat / 0x2000 % 4 = 1 by omega,
        show addr.toNat / 0x2000 % 4 = 1 by omega]
      rfl
    · rw [show (prgSlots.place addr).toNat / 0x2000 % 4 = 0 by omega,
        show addr.toNat / 0x2000 % 4 = 2 by omega]
      simp only [prgBank, hother]
      cases chip.prgSwapped <;> rfl
    · rw [show (prgSlots.place addr).toNat / 0x2000 % 4 = 3 by omega,
        show addr.toNat / 0x2000 % 4 = 3 by omega]
      rfl

/-- Below `$8000` the exchanges leave the side of the CPU alone. -/
theorem cpuTarget_flip_of_lt (h : addr.toNat < 0x8000) (prgSize : Nat) :
    (chip.flip exchange).cpuTarget prgSize addr = chip.cpuTarget prgSize addr := by
  have hnot : ¬ 0x8000 ≤ addr.toNat := by omega
  rw [cpuTarget, cpuTarget, if_neg hnot, if_neg hnot]
  rfl

/-! ## Registers -/

/-- The select register is at the even addresses of `$8000`–`$9FFF`. -/
def IsSelectAddr (addr : UInt16) : Prop :=
  addr.toNat / 0x2000 = 4 ∧ addr.toNat % 2 = 0

instance (addr : UInt16) : Decidable (IsSelectAddr addr) :=
  inferInstanceAs (Decidable (_ ∧ _))

/-- The other registers know nothing of the exchanges, and the select register keeps naming the same
bank register. -/
theorem write_flip (h : ¬ IsSelectAddr addr) (data : UInt8) :
    (chip.flip exchange).write addr data = (chip.write addr data).flip exchange := by
  simp only [write, chip.bankRegister_flip exchange]
  split
  next => rfl
  next hlow =>
    split
    next hbank =>
      -- The even addresses here are the select register.
      have hodd : ¬ addr.toNat % 2 = 0 := fun heven => h ⟨by omega, heven⟩
      rw [if_neg hodd, if_neg hodd]
      rfl
    next =>
      split
      next => split <;> rfl
      next =>
        split
        next => split <;> rfl
        next => split <;> rfl

theorem clockIrq_flip : (chip.flip exchange).clockIrq = chip.clockIrq.flip exchange :=
  rfl

theorem fetched_flip : (chip.flip exchange).fetched addr = (chip.fetched addr).flip exchange := by
  have hline : (chip.flip exchange).a12 = chip.a12 := rfl
  simp only [fetched, hline, clockIrq_flip]
  split <;> rfl

/-- What reaches a board from outside and can change it. -/
inductive Input where
  | write (addr : UInt16) (data : UInt8)
  | fetched (addr : UInt16)
  | clock

namespace Input

def apply (hw : Hardware) : Input → Hardware
  | write addr data => hw.write addr data
  | fetched addr => hw.fetched addr
  | clock => hw.clock

/-- The same for the board with the exchanged map: stores to pattern memory follow their cells. -/
def moved (exchange : Exchange) : Input → Input
  | write addr data => write (if addr.toNat < 0x2000 then exchange.place addr else addr) data
  | input => input

/-- The select register is not written. -/
def SparesSelect (input : Input) : Prop :=
  ∀ addr data, input = write addr data → ¬ IsSelectAddr addr

end Input

end Mmc3

/-! ## Memories -/

/-- Offsets count within their bank only. -/
theorem bankedIndex_congr {size offset offset' : Nat} (h : offset % size = offset' % size)
    (length bank : Nat) :
    bankedIndex length bank size offset = bankedIndex length bank size offset' := by
  rw [bankedIndex, bankedIndex, h]

theorem Memory.banked_congr {size offset offset' : Nat} (h : offset % size = offset' % size)
    (mem : Memory) (bank : Nat) :
    mem.banked bank size offset = mem.banked bank size offset' := by
  simp only [banked, bankedIndex_congr h]

theorem Memory.setBanked_congr {size offset offset' : Nat} (h : offset % size = offset' % size)
    (mem : Memory) (bank : Nat) (value : UInt8) :
    mem.setBanked bank size offset value = mem.setBanked bank size offset' value := by
  simp only [setBanked, bankedIndex_congr h]

/-! ## Boards -/

namespace Hardware

open Mmc3

/-- Two MMC3 boards that differ in the bit of an exchange, and in nothing else. -/
inductive Exchanged (exchange : Exchange) : Hardware → Hardware → Prop where
  | flip (chip : Mmc3) (prg : Memory) (chr : Chr) (wram : Memory) :
    Exchanged exchange ⟨.mmc3 chip, prg, chr, wram⟩ ⟨.mmc3 (chip.flip exchange), prg, chr, wram⟩

namespace Exchanged

variable {exchange : Exchange} {hw other : Hardware} (h : hw.Exchanged exchange other)

include h

theorem read_place (addr : UInt16) : other.read (exchange.place addr) = hw.read addr := by
  obtain ⟨chip, prg, chr, wram⟩ := h
  obtain ⟨hlowRange, hhighRange, -⟩ := exchange.place_range addr
  obtain ⟨hpattern, hslot⟩ := exchange.place_mod addr
  by_cases hlow : addr.toNat < 0x2000
  · rw [read, read, if_pos (hlowRange.mpr hlow), if_pos hlow]
    show chr.read ((chip.flip exchange).chrBank (exchange.place addr)) 0x400 _ =
      chr.read (chip.chrBank addr) 0x400 addr.toNat
    rw [chip.chrBank_flip_place exchange addr hlow]
    exact Memory.banked_congr hpattern ..
  · rw [read, read, if_neg (mt hlowRange.mp hlow), if_neg hlow]
    by_cases hhigh : 0x8000 ≤ addr.toNat
    · have htarget := cpuTarget_of_le chip hhigh prg.size
      have htarget' := cpuTarget_of_le (chip.flip exchange) (hhighRange.mpr hhigh) prg.size
      rw [chip.prgBank_flip_place exchange addr hhigh] at htarget'
      simp only [readCpu, Hardware.cpuTarget, Chip.cpuTarget, htarget, htarget']
      exact Memory.banked_congr (hslot hhigh) ..
    · -- Nothing is moved here, and the select register decides nothing.
      rw [exchange.place_of_between (by omega) (by omega)]
      simp only [readCpu, Hardware.cpuTarget, Chip.cpuTarget,
        chip.cpuTarget_flip_of_lt exchange addr (by omega)]

theorem writeChr {addr : UInt16} (hlow : addr.toNat < 0x2000) (data : UInt8) :
    (hw.writeChr addr data).Exchanged exchange (other.writeChr (exchange.place addr) data) := by
  obtain ⟨chip, prg, chr, wram⟩ := h
  have hcells : ∀ bank, chr.cells.setBanked bank 0x400 (exchange.place addr).toNat data =
      chr.cells.setBanked bank 0x400 addr.toNat data :=
    fun bank => Memory.setBanked_congr (exchange.place_mod addr).1 chr.cells bank data
  simp only [Hardware.writeChr, Chip.chrRef, chip.chrBank_flip_place exchange addr hlow, Chr.write,
    hcells]
  exact .flip ..

theorem writeWram {addr : UInt16} (hwram : inWram addr = true) (data : UInt8) :
    (hw.writeWram addr data).Exchanged exchange (other.writeWram addr data) := by
  obtain ⟨chip, prg, chr, wram⟩ := h
  have htarget := chip.cpuTarget_flip_of_lt exchange addr (inWram_iff.mp hwram).2 prg.size
  simp only [Hardware.writeWram, Hardware.cpuTarget, Chip.cpuTarget, htarget]
  cases chip.cpuTarget prg.size addr with
  | openBus | prg => exact .flip ..
  | wram writable => cases writable <;> exact .flip ..

theorem writeChip {addr : UInt16} (hspares : ¬ IsSelectAddr addr) (data : UInt8) :
    (hw.writeChip addr data).Exchanged exchange (other.writeChip addr data) := by
  obtain ⟨chip, prg, chr, wram⟩ := h
  simp only [Hardware.writeChip, Chip.busConflicts, Chip.write, Bool.false_eq_true, if_false,
    chip.write_flip exchange addr hspares]
  exact .flip ..

/-- Boards with exchanged maps stay so, whatever comes to both of them. -/
theorem apply {input : Input} (hspares : input.SparesSelect) :
    (input.apply hw).Exchanged exchange ((input.moved exchange).apply other) := by
  cases input with
  | write addr data =>
    simp only [Input.apply, Input.moved, write]
    by_cases hlow : addr.toNat < 0x2000
    · rw [if_pos hlow, if_pos hlow, if_pos ((exchange.place_range addr).1.mpr hlow)]
      exact h.writeChr hlow data
    · rw [if_neg hlow, if_neg hlow, if_neg hlow]
      by_cases hwram : inWram addr = true
      · rw [if_pos hwram, if_pos hwram]
        exact h.writeWram hwram data
      · rw [if_neg hwram, if_neg hwram]
        exact h.writeChip (hspares addr data rfl) data
  | fetched addr =>
    obtain ⟨chip, prg, chr, wram⟩ := h
    simp only [Input.apply, Input.moved, fetched, Chip.fetched, chip.fetched_flip]
    exact .flip ..
  | clock =>
    obtain ⟨chip, prg, chr, wram⟩ := h
    exact .flip ..

omit h in
theorem run {inputs : List Input} (hspares : ∀ input ∈ inputs, input.SparesSelect)
    {hw other : Hardware} (h : hw.Exchanged exchange other) :
    (inputs.foldl Input.apply hw).Exchanged exchange
      ((inputs.map (Input.moved exchange)).foldl Input.apply other) := by
  -- Every input changes both boards, so they vary along the induction.
  induction inputs generalizing hw other with
  | nil => exact h
  | cons input inputs ih =>
    exact ih (fun next hnext => hspares next (List.mem_cons_of_mem _ hnext))
      (h.apply (hspares input List.mem_cons_self))

/-- Everything but the map is the same. -/
theorem rest : other.prg = hw.prg ∧ other.chr = hw.chr ∧ other.wram = hw.wram ∧
    other.mirroring = hw.mirroring ∧ other.irq = hw.irq := by
  obtain ⟨chip, prg, chr, wram⟩ := h
  exact ⟨rfl, rfl, rfl, rfl, rfl⟩

end Exchanged

end Hardware

/-- Two MMC3 boards that differ in one exchange bit show the same bytes at the addresses that the
exchange pairs up, and go on doing so after anything but writes to the select register: with
memories of any length, and with the same memories, mirroring and IRQ line all along. -/
theorem exchanged_maps_stay_exchanged {exchange : Mmc3.Exchange} {hw other : Hardware}
    (h : hw.Exchanged exchange other) (inputs : List Mmc3.Input)
    (hspares : ∀ input ∈ inputs, input.SparesSelect) :
    let hw' := inputs.foldl Mmc3.Input.apply hw
    let other' := (inputs.map (Mmc3.Input.moved exchange)).foldl Mmc3.Input.apply other
    hw'.Exchanged exchange other' ∧
      (∀ addr, exchange.place (exchange.place addr) = addr ∧
        other'.read (exchange.place addr) = hw'.read addr) ∧
      other'.prg = hw'.prg ∧ other'.chr = hw'.chr ∧ other'.wram = hw'.wram ∧
      other'.mirroring = hw'.mirroring ∧ other'.irq = hw'.irq := by
  intro hw' other'
  have hrun : hw'.Exchanged exchange other' := Hardware.Exchanged.run hspares h
  exact ⟨hrun, fun addr => ⟨exchange.place_place addr, hrun.read_place addr⟩, hrun.rest⟩

/-- A byte that the first board stores at `$0400`, in the second half of R0's bank, is at `$1400` of
the second board. -/
theorem exchanged_maps_stay_exchanged_storing :
    let hw : Hardware := ⟨.mmc3 {}, #[1, 2, 3], .ram 0x800, Array.replicate 0x2000 0⟩
    let other : Hardware := { hw with chip := .mmc3 { bankSelect := 0x80 } }
    let inputs : List Mmc3.Input := [.write 0x8001 5, .write 0x0400 7, .fetched 0x1000]
    let inputs' := inputs.map (Mmc3.Input.moved .patternHalves)
    (inputs'.foldl Mmc3.Input.apply other).read 0x1400 = 7 := by
  intro hw other inputs inputs'
  have hflip : hw.Exchanged .patternHalves other := .flip ..
  have hspares : ∀ input ∈ inputs, input.SparesSelect := by
    intro input hinput addr data heq
    subst heq
    obtain heq | heq | heq := by simpa only [inputs, List.mem_cons, List.not_mem_nil, or_false]
      using hinput
    all_goals cases heq
    all_goals decide
  have hread := (exchanged_maps_stay_exchanged hflip inputs hspares).2.1 0x0400
  exact hread.2.trans (by decide +kernel)

end NesCartridge
