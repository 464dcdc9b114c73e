/-
  NesCartridge.Proofs.IrqCounters

  The IRQ counters after they were armed. Both count a period down and raise the line when it has
  passed, the MMC3 counter per rendered scanline (`Mmc3.Armed.scanline`), the FME-7 counter per CPU
  cycle (`Fme7.Armed.clock`); masked, they never raise it. Arming starts the count afresh from any
  state (`Chip.Wired.armed_armWrites`).
-/
import NesCartridge.Proofs.InStep
import NesCartridge.Proofs.Irq.Counters

namespace NesCartridge

/-! ## MMC3 -/

/-- The counter was armed with a period, and so many scanlines have passed since. -/
structure Mmc3.Armed (chip : Mmc3) (period passed : Nat) (enabled : Bool) : Prop where
  latch : chip.irqLatch.toNat = period - 1
  /-- What is left of the present period. -/
  left : period ∣ passed + chip.irqCounter.toNat
  left_lt : chip.irqCounter.toNat < period
  reload : chip.irqReload = true → chip.irqCounter = 0
  mask : chip.irqEnabled = enabled
  pending : chip.irqPending = (enabled && decide (period ≤ passed))

namespace Mmc3

variable {chip : Mmc3} {period passed : Nat} {enabled : Bool}

/-- Armed is timed with nothing acknowledged yet: the first deadline is then the period itself. -/
theorem armed_iff_timed :
    chip.Armed period passed enabled ↔ chip.Timed period 0 passed enabled := by
  have hdue : 0 < period → (DueWithin (period ∣ ·) 0 passed ↔ period ≤ passed) := fun hpos => by
    rw [dueWithin_dvd_iff hpos, Nat.zero_div, Nat.zero_add, Nat.one_mul]
  constructor
  · intro h
    have hpending := h.pending
    rw [Bool.eq_iff_iff, Bool.and_eq_true, decide_eq_true_eq] at hpending
    rw [← hdue (Nat.zero_lt_of_lt h.left_lt)] at hpending
    exact ⟨h.latch, h.left, h.left_lt, h.reload, h.mask, Nat.zero_le _, hpending⟩
  · intro h
    refine ⟨h.latch, h.left, h.left_lt, h.reload, h.mask, ?_⟩
    rw [Bool.eq_iff_iff, Bool.and_eq_true, decide_eq_true_eq,
      ← hdue (Nat.zero_lt_of_lt h.left_lt)]
    exact h.pending

/-- One more scanline: the background fetches hold address line 12 low, the sprite fetches raise
it. -/
theorem Armed.scanline (h : chip.Armed period passed enabled) :
    ((chip.fetched 0x0000).fetched 0x1000).Armed period (passed + 1) enabled :=
  armed_iff_timed.mpr (((armed_iff_timed.mp h).fetched 0x0000).fetched 0x1000)

end Mmc3

/-! ## FME-7 -/

/-- The counter was armed with a period, and so many CPU cycles have passed since. Masked, it
stands still. -/
structure Fme7.Armed (chip : Fme7) (period passed : Nat) (enabled : Bool) : Prop where
  running : chip.irqCounting = enabled
  mask : chip.irqEnabled = enabled
  /-- The counter wraps when the period has passed, and then again every 65536 cycles. -/
  left : enabled = true → 0x10000 ∣ passed + chip.irqCounter.toNat + 1 + (0x10000 - period)
  pending : chip.irqPending = (enabled && decide (period ≤ passed))

namespace Fme7

variable {chip : Fme7} {period passed : Nat} {enabled : Bool}

/-- While the counter runs, armed is timed with nothing acknowledged yet. -/
theorem armed_iff_timed (hpos : 0 < period) :
    chip.Armed period passed true ↔ chip.Timed period 0 passed := by
  have hdue : DueWithin (Wraps period) 0 passed ↔ period ≤ passed := by
    constructor
    · rintro ⟨deadline, ⟨count, rfl⟩, -, hbefore⟩
      omega
    · intro hbefore
      exact ⟨period, ⟨0, rfl⟩, hpos, hbefore⟩
  constructor
  · intro h
    have hpending := h.pending
    rw [Bool.true_and, Bool.eq_iff_iff, decide_eq_true_eq, ← hdue] at hpending
    exact ⟨h.running, h.mask, h.left rfl, Nat.zero_le _, hpending⟩
  · intro h
    refine ⟨h.running, h.mask, fun _ => h.left, ?_⟩
    rw [Bool.true_and, Bool.eq_iff_iff, decide_eq_true_eq, ← hdue]
    exact h.pending

/-- One more CPU cycle. -/
theorem Armed.clock (h : chip.Armed period passed enabled) (hpos : 0 < period)
    (hmax : period ≤ 0x10000) : chip.clock.Armed period (passed + 1) enabled := by
  cases enabled with
  | false =>
    have hstill : chip.clock = chip := by
      rw [Fme7.clock, h.running, if_neg (by decide)]
    rw [hstill]
    exact ⟨h.running, h.mask, fun henabled => (by cases henabled), h.pending⟩
  | true => exact (armed_iff_timed hpos).mpr (((armed_iff_timed hpos).mp h).clock hpos hmax)

end Fme7

/-! ## Arming -/

/-- Arming stops the counter, loads it and takes a pending IRQ back. -/
theorem Mmc3.armed_armWrites (chip : Mmc3) {period : Nat} (hpos : 0 < period) (hmax : period ≤ 256)
    (enabled : Bool) :
    ∃ next, (Chip.mmc3 chip).writeAll (Board.mmc3.armWrites (period - 1) enabled) = .mmc3 next ∧
      next.Armed period 0 enabled := by
  obtain ⟨next, hnext, htimed, -⟩ := chip.timed_armWrites hpos hmax enabled
  exact ⟨next, hnext, armed_iff_timed.mpr htimed⟩

theorem Fme7.armed_armWrites (chip : Fme7) {period : Nat} (hpos : 0 < period)
    (hmax : period ≤ 0x10000) (enabled : Bool) :
    ∃ next, (Chip.fme7 chip).writeAll (Board.fme7.armWrites (period - 1) enabled) = .fme7 next ∧
      next.Armed period 0 enabled := by
  obtain ⟨next, hnext, hcounter⟩ := chip.timed_armWrites hpos hmax enabled
  refine ⟨next, hnext, ?_⟩
  cases enabled with
  | true => exact (armed_iff_timed hpos).mpr hcounter
  | false =>
    have hloaded : next.Loaded period := hcounter
    exact ⟨hloaded.stopped, hloaded.mask, fun henabled => (by cases henabled), hloaded.pending⟩

namespace Chip

/-- The IRQ counter of the chip was armed with a period, and so much of what it counts has passed
since. -/
def Armed (chip : Chip) (period passed : Nat) (enabled : Bool) : Prop :=
  match chip with
  | .mmc3 c => c.Armed period passed enabled
  | .fme7 c => c.Armed period passed enabled
  | _ => False

/-- The line goes up when the period has passed, unless it is masked. -/
theorem Armed.irq_eq {chip : Chip} {period passed : Nat} {enabled : Bool}
    (h : chip.Armed period passed enabled) : chip.irq = (enabled && decide (period ≤ passed)) := by
  cases chip with
  | mmc3 c => exact Mmc3.Armed.pending h
  | fme7 c => exact Fme7.Armed.pending h
  | nrom | mmc1 | mmc2 | action53 | discrete => exact h.elim

/-- An armed FME-7 counts CPU cycles. -/
theorem Armed.clocks {chip : Chip} {solder : Mirroring} {period passed : Nat} {enabled : Bool}
    (h : chip.Armed period passed enabled) (hwired : chip.Wired .fme7 solder) (hpos : 0 < period)
    (hmax : period ≤ 0x10000) (count : Nat) :
    (count.repeat clock chip).Armed period (passed + count) enabled := by
  induction count with
  | zero => exact h
  | succ count ih =>
    -- Only the wiring says which counter it is, so it has to hold after every cycle.
    have hnow := (chip.undisturbed_clocks count).wired hwired
    show (clock (count.repeat clock chip)).Armed period (passed + (count + 1)) enabled
    generalize count.repeat clock chip = now at hnow ih
    cases hnow with
    | fme7 => exact Fme7.Armed.clock ih hpos hmax
    | discrete hlayout => cases hlayout

namespace Wired

variable {board : Board} {solder : Mirroring} {chip : Chip}

/-- Arming starts the count afresh, whatever the counter did before. -/
theorem armed_armWrites (h : chip.Wired board solder) (hirq : board.descriptor.supportsIrq = true)
    {period : Nat} (hpos : 0 < period) (hmax : period ≤ board.descriptor.irq.maxPeriod)
    (enabled : Bool) :
    (chip.writeAll (board.armWrites (period - 1) enabled)).Armed period 0 enabled := by
  cases h with
  | nrom | mmc1 | mmc2 | mmc4 | action53 => cases hirq
  | @mmc3 _ c =>
    obtain ⟨next, hnext, harmed⟩ := c.armed_armWrites hpos hmax enabled
    rw [hnext]
    exact harmed
  | @fme7 _ c =>
    obtain ⟨next, hnext, harmed⟩ := c.armed_armWrites hpos hmax enabled
    rw [hnext]
    exact harmed
  | discrete hlayout =>
    rw [(Discrete.features_eq hlayout).2] at hirq
    cases hirq

/-- An acknowledged IRQ leaves the line down. -/
theorem irq_acknowledgeWrites (h : chip.Wired board solder)
    (hirq : board.descriptor.supportsIrq = true) :
    (chip.writeAll board.acknowledgeWrites).irq = false := by
  cases h with
  | nrom | mmc1 | mmc2 | mmc4 | action53 => cases hirq
  | mmc3 | fme7 => rfl
  | discrete hlayout =>
    rw [(Discrete.features_eq hlayout).2] at hirq
    cases hirq

end Wired

end Chip

/-! ## Letting time pass -/

namespace Console

/-- Some scanlines or CPU cycles, whichever a counter counts. -/
def pass (console : Console) (kind : IrqKind) (count : Nat) : Console :=
  match kind with
  | .scanline => count.repeat scanline console
  | _ => console.tick count

/-- A scanline is two pattern accesses. -/
theorem chip_scanline (console : Console) :
    console.scanline.chip = (console.chip.fetched 0x0000).fetched 0x1000 := rfl

theorem keeps_scanlines (console : Console) (count : Nat) :
    console.Keeps (count.repeat scanline console) := by
  induction count with
  | zero => exact keeps_refl console
  | succ count ih => exact (ih.trans (keeps_readPpu _ 0x0000)).trans (keeps_readPpu _ 0x1000)

theorem keeps_pass (console : Console) (kind : IrqKind) (count : Nat) :
    console.Keeps (console.pass kind count) := by
  cases kind with
  | scanline => exact console.keeps_scanlines count
  | none | cpuCycle => exact console.keeps_tick count

theorem chr_scanlines (console : Console) (count : Nat) :
    (count.repeat scanline console).cart.hardware.chr = console.cart.hardware.chr := by
  induction count with
  | zero => rfl
  | succ count ih =>
    have hsecond := chr_readPpu ((count.repeat scanline console).readPpu 0x0000).2 0x1000
    have hfirst := chr_readPpu (count.repeat scanline console) 0x0000
    exact hsecond.trans (hfirst.trans ih)

/-- Time changes nothing in pattern memory. -/
theorem chr_pass (console : Console) (kind : IrqKind) (count : Nat) :
    (console.pass kind count).cart.hardware.chr = console.cart.hardware.chr := by
  cases kind with
  | scanline => exact console.chr_scanlines count
  | none | cpuCycle =>
    show (console.tick count).cart.hardware.chr = _
    rw [tick_eq]
    rfl

variable {console : Console} {board : Board} {solder : Mirroring} {period passed : Nat}
  {enabled : Bool}

theorem armed_scanlines (hwired : console.chip.Wired .mmc3 solder)
    (h : console.chip.Armed period passed enabled) (count : Nat) :
    (count.repeat scanline console).chip.Armed period (passed + count) enabled := by
  induction count with
  | zero => exact h
  | succ count ih =>
    have hnow : (count.repeat scanline console).chip.Wired .mmc3 solder :=
      (console.keeps_scanlines count).chip.wired hwired
    show (scanline (count.repeat scanline console)).chip.Armed period (passed + (count + 1)) enabled
    rw [chip_scanline]
    generalize (count.repeat scanline console).chip = chip at hnow ih
    cases hnow with
    | mmc3 => exact Mmc3.Armed.scanline ih
    | discrete hlayout => cases hlayout

/-- An armed counter goes on counting what it counts. -/
theorem armed_pass (hwired : console.chip.Wired board solder)
    (h : console.chip.Armed period passed enabled) (hpos : 0 < period)
    (hmax : period ≤ board.descriptor.irq.maxPeriod) (count : Nat) :
    (console.pass board.descriptor.irq count).chip.Armed period (passed + count) enabled := by
  cases board with
  | mmc3 => exact armed_scanlines hwired h count
  | fme7 =>
    show (console.tick count).chip.Armed period (passed + count) enabled
    rw [tick_eq]
    exact h.clocks hwired hpos hmax count
  -- The other boards have no period to arm.
  | _ => exact absurd hpos (Nat.not_lt.mpr hmax)

end Console

end NesCartridge
