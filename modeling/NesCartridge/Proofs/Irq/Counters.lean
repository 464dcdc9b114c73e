/-
  NesCartridge.Proofs.Irq.Counters

  When the IRQ counters raise their line. The MMC3 counter does so at every multiple of its period
  (`Mmc3.Timed`), the FME-7 counter at its period and then every 65536 cycles (`Fme7.Timed`), and
  either line stays up until it is acknowledged, which does not move the deadlines. Writes to the
  other registers leave the counters alone (`SameCounter`).
-/
import NesCartridge.Proofs.Chip.Fme7
import NesCartridge.Proofs.Chip.Mmc3
import NesCartridge.Proofs.Chip.RegisterFile

namespace NesCartridge

/-! ## Deadlines -/

/-- A deadline has come after `acked`, and not after `passed`. -/
def DueWithin (due : Nat → Prop) (acked passed : Nat) : Prop :=
  ∃ deadline, due deadline ∧ acked < deadline ∧ deadline ≤ passed

theorem not_dueWithin_self (due : Nat → Prop) (now : Nat) : ¬ DueWithin due now now := by
  rintro ⟨deadline, -, hafter, hbefore⟩
  omega

/-- A step further: what was due is still due, and the step may be a deadline itself. -/
theorem dueWithin_succ {due : Nat → Prop} {acked passed : Nat} (h : acked ≤ passed) :
    DueWithin due acked (passed + 1) ↔ DueWithin due acked passed ∨ due (passed + 1) := by
  constructor
  · rintro ⟨deadline, hdue, hafter, hbefore⟩
    rcases Nat.lt_or_eq_of_le hbefore with hearlier | rfl
    · exact Or.inl ⟨deadline, hdue, hafter, Nat.le_of_lt_succ hearlier⟩
    · exact Or.inr hdue
  · rintro (⟨deadline, hdue, hafter, hbefore⟩ | hdue)
    · exact ⟨deadline, hdue, hafter, Nat.le_succ_of_le hbefore⟩
    · exact ⟨passed + 1, hdue, Nat.lt_succ_of_le h, Nat.le_refl _⟩

/-- Of the multiples of a period the first after `acked` decides. -/
theorem dueWithin_dvd_iff {period : Nat} (hpos : 0 < period) (acked passed : Nat) :
    DueWithin (period ∣ ·) acked passed ↔ (acked / period + 1) * period ≤ passed := by
  constructor
  · rintro ⟨deadline, ⟨count, rfl⟩, hafter, hbefore⟩
    have hcount : acked / period < count := (Nat.div_lt_iff_lt_mul hpos).mpr (by rwa [Nat.mul_comm])
    calc (acked / period + 1) * period
        ≤ count * period := Nat.mul_le_mul_right period hcount
      _ = period * count := Nat.mul_comm ..
      _ ≤ passed := hbefore
  · intro hnext
    have hafter : acked < (acked / period + 1) * period := by
      rw [Nat.mul_comm]
      exact Nat.lt_mul_div_succ acked hpos
    exact ⟨_, Nat.dvd_mul_left .., hafter, hnext⟩

/-! ## MMC3 -/

namespace Mmc3

/-- The counter counts rises against a period. There have been `passed` of them since it was armed
and `acked` until the line was last acknowledged. -/
structure Timed (chip : Mmc3) (period acked passed : Nat) (enabled : Bool) : Prop where
  latch : chip.irqLatch.toNat = period - 1
  /-- What is left of the present period. -/
  left : period ∣ passed + chip.irqCounter.toNat
  left_lt : chip.irqCounter.toNat < period
  reload : chip.irqReload = true → chip.irqCounter = 0
  mask : chip.irqEnabled = enabled
  acked_le : acked ≤ passed
  pending : chip.irqPending = true ↔ enabled = true ∧ DueWithin (period ∣ ·) acked passed

/-- The two chips agree on the IRQ counter and on address line 12. -/
def SameCounter (before after : Mmc3) : Prop :=
  ∃ bankSelect banks mirroring wramEnabled wramProtected,
    after = { before with bankSelect, banks, mirroring, wramEnabled, wramProtected }

variable {chip next : Mmc3} {period acked passed : Nat} {enabled : Bool}

/-- A period counts down to zero and then starts over. -/
theorem Timed.left_clockIrq (h : chip.Timed period acked passed enabled) :
    period ∣ passed + 1 + chip.clockIrq.irqCounter.toNat ∧
      chip.clockIrq.irqCounter.toNat < period := by
  have hlt := h.left_lt
  -- A requested reload needs no case of its own, since then the counter is zero too.
  by_cases hzero : chip.irqCounter = 0
  · have hclock : chip.clockIrq.irqCounter = chip.irqLatch := if_pos (Or.inl hzero)
    have hleft := h.left
    have hnone : chip.irqCounter.toNat = 0 := by rw [hzero]; rfl
    have hsum : passed + 1 + (period - 1) = passed + chip.irqCounter.toNat + period := by omega
    rw [hclock, h.latch, hsum]
    exact ⟨Nat.dvd_add hleft (Nat.dvd_refl period), by omega⟩
  · have hclock : chip.clockIrq.irqCounter = chip.irqCounter - 1 :=
      if_neg fun hstart => hstart.elim hzero fun hreload => hzero (h.reload hreload)
    have hpos : 0 < chip.irqCounter.toNat :=
      Nat.pos_of_ne_zero fun hnone => hzero (UInt8.toNat_inj.mp hnone)
    have hone : (1 : UInt8) ≤ chip.irqCounter := hpos
    have hdown : (chip.irqCounter - 1).toNat = chip.irqCounter.toNat - 1 :=
      UInt8.toNat_sub_of_le _ _ hone
    have hsum : passed + 1 + (chip.irqCounter.toNat - 1) = passed + chip.irqCounter.toNat := by
      omega
    rw [hclock, hdown, hsum]
    exact ⟨h.left, by omega⟩

/-- One more rise. -/
theorem Timed.clockIrq (h : chip.Timed period acked passed enabled) :
    chip.clockIrq.Timed period acked (passed + 1) enabled := by
  obtain ⟨hleft, hlt⟩ := h.left_clockIrq
  -- The counter comes to zero at the multiples of the period and nowhere else.
  have hzero : chip.clockIrq.irqCounter = 0 ↔ period ∣ passed + 1 := by
    constructor
    · intro hzero
      have hnone : chip.clockIrq.irqCounter.toNat = 0 := by rw [hzero]; rfl
      rwa [hnone] at hleft
    · intro hdvd
      have hrest := (Nat.dvd_add_right hdvd).mp hleft
      exact UInt8.toNat_inj.mp (Nat.eq_zero_of_dvd_of_lt hrest hlt)
  refine ⟨h.latch, hleft, hlt, fun hreload => (by cases hreload), h.mask,
    Nat.le_succ_of_le h.acked_le, ?_⟩
  show (chip.irqPending || (decide (chip.clockIrq.irqCounter = 0) && chip.irqEnabled)) = true ↔ _
  rw [dueWithin_succ h.acked_le, Bool.or_eq_true, Bool.and_eq_true, decide_eq_true_eq, h.pending,
    h.mask, hzero, and_or_left]
  exact or_congr_right and_comm

/-- A pattern access counts if address line 12 rises with it. -/
theorem Timed.fetched (h : chip.Timed period acked passed enabled) (addr : UInt16) :
    let high := decide (addr.toNat / 0x1000 % 2 = 1)
    let rises := if high && !chip.a12 then 1 else 0
    (chip.fetched addr).Timed period acked (passed + rises) enabled := by
  intro high rises
  have hframe : ∀ {count : Nat} {now : Mmc3}, now.Timed period acked count enabled →
      { now with a12 := high }.Timed period acked count enabled := fun hnow =>
    ⟨hnow.latch, hnow.left, hnow.left_lt, hnow.reload, hnow.mask, hnow.acked_le, hnow.pending⟩
  show { (if high && !chip.a12 then chip.clockIrq else chip) with a12 := high }.Timed _ _
    (passed + if high && !chip.a12 then 1 else 0) _
  split
  · exact hframe h.clockIrq
  · exact hframe h

theorem Timed.of_sameCounter (h : chip.Timed period acked passed enabled)
    (hsame : chip.SameCounter next) : next.Timed period acked passed enabled := by
  obtain ⟨bankSelect, banks, mirroring, wramEnabled, wramProtected, rfl⟩ := hsame
  exact ⟨h.latch, h.left, h.left_lt, h.reload, h.mask, h.acked_le, h.pending⟩

theorem SameCounter.a12_eq (h : chip.SameCounter next) : next.a12 = chip.a12 := by
  obtain ⟨bankSelect, banks, mirroring, wramEnabled, wramProtected, rfl⟩ := h
  rfl

/-! ### Register writes -/

theorem write_irqPeriod (chip : Mmc3) (data : UInt8) :
    chip.write Address.mmc3IrqPeriod data = { chip with irqLatch := data } := rfl

theorem write_irqReload (chip : Mmc3) (data : UInt8) :
    chip.write Address.mmc3IrqReload data = { chip with irqReload := true, irqCounter := 0 } := rfl

theorem write_irqDisable (chip : Mmc3) (data : UInt8) :
    chip.write Address.mmc3IrqDisable data =
      { chip with irqEnabled := false, irqPending := false } := rfl

theorem write_irqEnable (chip : Mmc3) (data : UInt8) :
    chip.write Address.mmc3IrqEnable data = { chip with irqEnabled := true } := rfl

/-- Arming stops the counter, asks for a reload and takes a pending IRQ back. -/
theorem writeAll_armWrites (chip : Mmc3) (count : Nat) (enabled : Bool) :
    (Chip.mmc3 chip).writeAll (Board.mmc3.armWrites count enabled) =
      .mmc3
        { chip with
          irqLatch := UInt8.ofNat count
          irqCounter := 0
          irqReload := true
          irqEnabled := enabled
          irqPending := false } := by
  let stopped := ((chip.write Address.mmc3IrqPeriod (UInt8.ofNat count)).write
    Address.mmc3IrqReload 0).write Address.mmc3IrqDisable 0
  have hstopped : stopped =
      { chip with
        irqLatch := UInt8.ofNat count
        irqCounter := 0
        irqReload := true
        irqEnabled := false
        irqPending := false } := by
    show ((chip.write Address.mmc3IrqPeriod _).write Address.mmc3IrqReload 0).write
      Address.mmc3IrqDisable 0 = _
    rw [write_irqPeriod, write_irqReload, write_irqDisable]
  cases enabled with
  | true =>
    show Chip.mmc3 (stopped.write Address.mmc3IrqEnable 0) = _
    rw [write_irqEnable, hstopped]
  | false =>
    show Chip.mmc3 stopped = _
    rw [hstopped]

/-- Arming starts the count afresh, whatever the counter did before. -/
theorem timed_armWrites (chip : Mmc3) (hpos : 0 < period) (hmax : period ≤ 256)
    (enabled : Bool) :
    ∃ next, (Chip.mmc3 chip).writeAll (Board.mmc3.armWrites (period - 1) enabled) = .mmc3 next ∧
      next.Timed period 0 0 enabled ∧ next.a12 = chip.a12 := by
  have hlatch : (UInt8.ofNat (period - 1)).toNat = period - 1 := toNat_ofNat_of_le (by omega)
  refine ⟨_, writeAll_armWrites chip (period - 1) enabled, ?_, rfl⟩
  refine ⟨hlatch, Nat.dvd_zero period, hpos, fun _ => rfl, rfl, Nat.le_refl 0, ?_⟩
  exact iff_of_false Bool.false_ne_true fun hdue => not_dueWithin_self _ 0 hdue.2

/-- Acknowledging takes a pending IRQ back, lets the line go up again, and does not touch the
count. -/
theorem Timed.acknowledgeWrites (h : chip.Timed period acked passed enabled) :
    ∃ next, (Chip.mmc3 chip).writeAll Board.mmc3.acknowledgeWrites = .mmc3 next ∧
      next.Timed period passed passed true ∧ next.a12 = chip.a12 := by
  have hwrites : (Chip.mmc3 chip).writeAll Board.mmc3.acknowledgeWrites =
      .mmc3 { chip with irqEnabled := true, irqPending := false } := by
    show Chip.mmc3 ((chip.write Address.mmc3IrqDisable 0).write Address.mmc3IrqEnable 0) = _
    rw [write_irqDisable, write_irqEnable]
  refine ⟨_, hwrites, ?_, rfl⟩
  refine ⟨h.latch, h.left, h.left_lt, h.reload, rfl, Nat.le_refl _, ?_⟩
  exact iff_of_false Bool.false_ne_true fun hdue => not_dueWithin_self _ passed hdue.2

/-- Banks, mirroring and work RAM have registers of their own. -/
theorem sameCounter_answers (chip : Mmc3) {shadow after : Shadow} {req : Request}
    {writes : List RegisterWrite} (hans : Board.mmc3.Answers shadow req after writes)
    (hreq : req.LeavesCounter) :
    ∃ next, (Chip.mmc3 chip).writeAll writes = .mmc3 next ∧ chip.SameCounter next := by
  cases hans with
  | bringUp | configureIrq | acknowledgeIrq => exact hreq.elim
  | selectPrg | selectChr => exact ⟨_, writeAll_mmc3Writes .., _, _, _, _, _, rfl⟩
  | setMirroring => exact ⟨_, congrArg Chip.mmc3 (write_mirroring ..), _, _, _, _, _, rfl⟩
  | setWram => exact ⟨_, congrArg Chip.mmc3 (write_wramProtect ..), _, _, _, _, _, rfl⟩

theorem sameCounter_withSelect (chip : Mmc3) (byte : UInt8) :
    ∃ next, (Chip.mmc3 chip).withSelect byte = .mmc3 next ∧ chip.SameCounter next :=
  ⟨_, rfl, _, _, _, _, _, rfl⟩

end Mmc3

/-! ## FME-7 -/

namespace Fme7

/-- Where the counter of a running FME-7 wraps. -/
def Wraps (period deadline : Nat) : Prop :=
  ∃ count, deadline = period + 0x10000 * count

/-- The counter runs with a period. There have been `passed` cycles since it was let go and `acked`
until the line was last acknowledged. -/
structure Timed (chip : Fme7) (period acked passed : Nat) : Prop where
  running : chip.irqCounting = true
  mask : chip.irqEnabled = true
  /-- What is left until the counter wraps. -/
  left : 0x10000 ∣ passed + chip.irqCounter.toNat + 1 + (0x10000 - period)
  acked_le : acked ≤ passed
  pending : chip.irqPending = true ↔ DueWithin (Wraps period) acked passed

/-- The counter is loaded with a period and stands still. -/
structure Loaded (chip : Fme7) (period : Nat) : Prop where
  stopped : chip.irqCounting = false
  mask : chip.irqEnabled = false
  counter : chip.irqCounter.toNat = period - 1
  pending : chip.irqPending = false

/-- The two chips agree on the IRQ counter. -/
def SameCounter (before after : Fme7) : Prop :=
  ∃ command chr low prg nametables,
    after = { before with command, chr, low, prg, nametables }

variable {chip next : Fme7} {period acked passed : Nat}

/-- One more CPU cycle. -/
theorem Timed.clock (h : chip.Timed period acked passed) (hpos : 0 < period)
    (hmax : period ≤ 0x10000) : chip.clock.Timed period acked (passed + 1) := by
  have hleft := h.left
  have hlt := chip.irqCounter.toNat_lt
  have hclock : chip.clock =
      { chip with
        irqCounter := chip.irqCounter - 1
        irqPending :=
          chip.irqPending || (decide (chip.irqCounter - 1 = 0xFFFF) && chip.irqEnabled) } := by
    rw [Fme7.clock, h.running, if_pos rfl]
  have hdown : (chip.irqCounter - 1).toNat = (0xFFFF + chip.irqCounter.toNat) % 0x10000 :=
    UInt16.toNat_sub ..
  -- The line is tied to the counter's borrow, which comes after a count of zero.
  have hborrow : chip.irqCounter - 1 = 0xFFFF ↔ Wraps period (passed + 1) := by
    have hzero : chip.irqCounter - 1 = 0xFFFF ↔ chip.irqCounter.toNat = 0 := by
      rw [← UInt16.toNat_inj, hdown]
      show (0xFFFF + chip.irqCounter.toNat) % 0x10000 = 0xFFFF ↔ _
      omega
    rw [hzero]
    constructor
    · intro hnone
      exact ⟨(passed + 1 - period) / 0x10000, by omega⟩
    · rintro ⟨count, hcount⟩
      omega
  rw [hclock]
  refine ⟨h.running, h.mask, ?_, Nat.le_succ_of_le h.acked_le, ?_⟩
  · show 0x10000 ∣ passed + 1 + (chip.irqCounter - 1).toNat + 1 + (0x10000 - period)
    omega
  · show (chip.irqPending || (decide (chip.irqCounter - 1 = 0xFFFF) && chip.irqEnabled)) = true ↔ _
    rw [dueWithin_succ h.acked_le, Bool.or_eq_true, Bool.and_eq_true, decide_eq_true_eq, h.pending,
      h.mask, hborrow, and_iff_left rfl]

theorem Timed.clocks (h : chip.Timed period acked passed) (hpos : 0 < period)
    (hmax : period ≤ 0x10000) (cycles : Nat) :
    ∃ next, cycles.repeat Chip.clock (.fme7 chip) = .fme7 next ∧
      next.Timed period acked (passed + cycles) := by
  induction cycles with
  | zero => exact ⟨chip, rfl, h⟩
  | succ cycles ih =>
    obtain ⟨next, hnext, htimed⟩ := ih
    refine ⟨next.clock, ?_, htimed.clock hpos hmax⟩
    rw [Nat.repeat, hnext]
    rfl

/-- A counter that stands still does not notice time. -/
theorem clocks_of_stopped (hstopped : chip.irqCounting = false) (cycles : Nat) :
    cycles.repeat Chip.clock (.fme7 chip) = .fme7 chip := by
  induction cycles with
  | zero => rfl
  | succ cycles ih =>
    rw [Nat.repeat, ih]
    show Chip.fme7 chip.clock = _
    rw [Fme7.clock, hstopped, if_neg (by decide)]

theorem Timed.of_sameCounter (h : chip.Timed period acked passed)
    (hsame : chip.SameCounter next) : next.Timed period acked passed := by
  obtain ⟨command, chr, low, prg, nametables, rfl⟩ := hsame
  exact ⟨h.running, h.mask, h.left, h.acked_le, h.pending⟩

theorem Loaded.of_sameCounter (h : chip.Loaded period) (hsame : chip.SameCounter next) :
    next.Loaded period := by
  obtain ⟨command, chr, low, prg, nametables, rfl⟩ := hsame
  exact ⟨h.stopped, h.mask, h.counter, h.pending⟩

/-! ### Register writes -/

/-- The IRQ control takes a pending IRQ back, and starts or stops the counter. -/
theorem store_irqControl (chip : Fme7) (value : UInt8) :
    chip.store 0x0D value =
      { chip with
        command := 0x0D
        irqEnabled := value &&& 0x01 != 0
        irqCounting := value &&& 0x80 != 0
        irqPending := false } := rfl

/-- Letting a loaded counter go. -/
theorem Loaded.start (h : chip.Loaded period) (hpos : 0 < period) (hmax : period ≤ 0x10000) :
    (chip.store 0x0D 0x81).Timed period 0 0 := by
  have hcounter := h.counter
  rw [store_irqControl]
  refine ⟨rfl, rfl, ?_, Nat.le_refl 0, ?_⟩
  · show 0x10000 ∣ 0 + chip.irqCounter.toNat + 1 + (0x10000 - period)
    omega
  · exact iff_of_false Bool.false_ne_true (not_dueWithin_self _ 0)

/-- Acknowledging a running counter does not touch the count. -/
theorem Timed.restart (h : chip.Timed period acked passed) :
    (chip.store 0x0D 0x81).Timed period passed passed := by
  rw [store_irqControl]
  refine ⟨rfl, rfl, h.left, Nat.le_refl _, ?_⟩
  exact iff_of_false Bool.false_ne_true (not_dueWithin_self _ passed)

/-- The two halves of the counter are loaded while it stands still. -/
theorem loaded_stores (chip : Fme7) (hpos : 0 < period) (hmax : period ≤ 0x10000) :
    (((chip.store 0x0D 0).store 0x0E (UInt8.ofNat (period - 1))).store 0x0F
      (UInt8.ofNat ((period - 1) / 256))).Loaded period := by
  let low := UInt16.ofNat (chip.irqCounter.toNat / 256 * 256 + (UInt8.ofNat (period - 1)).toNat)
  let high := UInt16.ofNat (low.toNat % 256 + (UInt8.ofNat ((period - 1) / 256)).toNat * 256)
  -- The halves are loaded one after the other, the second on top of the first.
  have hcounter : high.toNat = period - 1 := by
    obtain ⟨⟨hlow, -⟩, -, -⟩ := counter_halves chip.irqCounter (UInt8.ofNat (period - 1))
    obtain ⟨-, hlow', hhigh⟩ := counter_halves low (UInt8.ofNat ((period - 1) / 256))
    have hlow8 : (UInt8.ofNat (period - 1)).toNat = (period - 1) % 256 := UInt8.toNat_ofNat ..
    have hhigh8 : (UInt8.ofNat ((period - 1) / 256)).toNat = (period - 1) / 256 :=
      toNat_ofNat_of_le (by omega)
    have hlowest : high.toNat % 256 = (period - 1) % 256 := hlow'.trans (hlow.trans hlow8)
    have hhighest : high.toNat / 256 = (period - 1) / 256 := hhigh.trans hhigh8
    omega
  exact ⟨rfl, rfl, hcounter, rfl⟩

/-- Arming loads the counter and lets it go if it is to raise the line. -/
theorem timed_armWrites (chip : Fme7) (hpos : 0 < period) (hmax : period ≤ 0x10000)
    (enabled : Bool) :
    ∃ next, (Chip.fme7 chip).writeAll (Board.fme7.armWrites (period - 1) enabled) = .fme7 next ∧
      if enabled then next.Timed period 0 0 else next.Loaded period := by
  have hloaded := chip.loaded_stores hpos hmax
  simp only [Board.armWrites, Chip.writeAll_append, writeAll_fme7Writes]
  cases enabled with
  | true => exact ⟨_, writeAll_fme7Writes .., hloaded.start hpos hmax⟩
  | false => exact ⟨_, rfl, hloaded⟩

/-- Banks, mirroring and work RAM have parameters of their own. -/
theorem sameCounter_answers (chip : Fme7) {shadow after : Shadow} {req : Request}
    {writes : List RegisterWrite} (hans : Board.fme7.Answers shadow req after writes)
    (hreq : req.LeavesCounter) :
    ∃ next, (Chip.fme7 chip).writeAll writes = .fme7 next ∧ chip.SameCounter next := by
  cases hans with
  | bringUp | configureIrq | acknowledgeIrq => exact hreq.elim
  | selectPrg hwindow =>
    have hlt := (List.getElem?_eq_some_iff.mp hwindow).1
    refine ⟨_, writeAll_fme7Writes .., ?_⟩
    rw [store_prg chip hlt]
    exact ⟨_, _, _, _, _, rfl⟩
  | selectChr hwindow =>
    have hlt := (List.getElem?_eq_some_iff.mp hwindow).1
    refine ⟨_, writeAll_fme7Writes .., ?_⟩
    rw [store_chr chip hlt]
    exact ⟨_, _, _, _, _, rfl⟩
  | setMirroring | setWram => exact ⟨_, writeAll_fme7Writes .., _, _, _, _, _, rfl⟩

theorem sameCounter_withSelect (chip : Fme7) (byte : UInt8) :
    ∃ next, (Chip.fme7 chip).withSelect byte = .fme7 next ∧ chip.SameCounter next :=
  ⟨_, rfl, _, _, _, _, _, rfl⟩

end Fme7

end NesCartridge
