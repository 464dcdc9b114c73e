/-
  NesCartridge.Proofs.Irq.Scanline

  The scanline IRQ of MMC3 over whole runs. After the counter was armed the line is up exactly if a
  multiple of the period lies between the rises of address line 12 that had been counted when it was
  last acknowledged and those counted now, whatever else the program did in between
  (`mmc3_irq_follows_rises`).
-/
import NesCartridge.Proofs.Irq.Counters
import NesCartridge.Proofs.Irq.Timeline

namespace NesCartridge

/-! ## Address line 12 -/

theorem Mmc3.a12_write (chip : Mmc3) (addr : UInt16) (data : UInt8) :
    (chip.write addr data).a12 = chip.a12 := by
  unfold Mmc3.write
  dsimp only
  repeat' split
  all_goals rfl

namespace Chip

/-- The level of address line 12 at the last pattern access, on a chip that watches the line. -/
def line? : Chip → Option Bool
  | .mmc3 c => some c.a12
  | _ => none

theorem line?_write (chip : Chip) (addr : UInt16) (data : UInt8) :
    (chip.write addr data).line? = chip.line? := by
  cases chip with
  | mmc3 c => exact congrArg some (c.a12_write addr data)
  | nrom | mmc1 | mmc2 | action53 | fme7 | discrete => rfl

theorem line?_clocks (chip : Chip) (cycles : Nat) :
    (cycles.repeat clock chip).line? = chip.line? := by
  induction cycles with
  | zero => rfl
  | succ cycles ih =>
    rw [Nat.repeat, ← ih]
    generalize cycles.repeat clock chip = now
    cases now <;> rfl

/-- Only pattern accesses move the line. -/
theorem line?_onChip {chip : Chip} {level : Bool} (h : chip.line? = some level) (action : Action) :
    (action.onChip chip).line? = some (action.lineAfter level) := by
  rw [Action.onChip, line?_clocks, Action.lineAfter]
  cases action.patternAddr? with
  | none => exact h
  | some addr =>
    cases chip with
    | mmc3 c => rfl
    | nrom | mmc1 | mmc2 | action53 | fme7 | discrete => cases h

end Chip

/-- No action but a pattern access moves the line, raw register writes included. -/
theorem Action.line?_perform {session : Session Console} {level : Bool}
    (h : session.bus.chip.line? = some level) (action : Action) :
    (action.perform session).2.bus.chip.line? = some (action.lineAfter level) := by
  rw [view_perform Chip.line?_write]
  exact Chip.line?_onChip h action

/-- After any run the chip remembers the level that the accesses left. -/
theorem Script.line?_run {session : Session Console} {start : Bool}
    (h : session.bus.chip.line? = some start) (script : Script Action) :
    (script.run Action.perform session).2.bus.chip.line? =
      some (Timeline.line start script.actions) := by
  have hfollow : ∀ (made : List Action) (action : Action) (chip : Chip),
      chip.line? = some (Timeline.line start made) →
        (action.onChip chip).line? = some (Timeline.line start (made ++ [action])) := by
    intro made action chip hchip
    rw [Timeline.line_append]
    exact Chip.line?_onChip hchip action
  exact Script.view_run Chip.line?_write hfollow h script

/-! ## A counter that counts -/

theorem Mmc3.clocks (chip : Mmc3) (cycles : Nat) :
    cycles.repeat Chip.clock (.mmc3 chip) = .mmc3 chip := by
  induction cycles with
  | zero => rfl
  | succ cycles ih =>
    rw [Nat.repeat, ih]
    rfl

/-- An access counts by the rises that come with it. -/
theorem Mmc3.Timed.onChip {chip : Mmc3} {period acked passed : Nat} {enabled : Bool}
    (h : chip.Timed period acked passed enabled) (action : Action) :
    ∃ next, action.onChip (.mmc3 chip) = .mmc3 next ∧
      next.Timed period acked (passed + action.rises chip.a12) enabled := by
  rw [Action.onChip, Action.rises, Action.lineAfter]
  cases action.patternAddr? with
  | some addr => exact ⟨_, Mmc3.clocks _ _, h.fetched addr⟩
  | none =>
    refine ⟨chip, chip.clocks _, ?_⟩
    dsimp only
    rw [Bool.and_not_self, if_neg Bool.false_ne_true]
    exact h

/-- One action of a program that leaves the counter armed. -/
theorem Mmc3.Timed.perform {prg : Memory} {chr : Chr} {solder : Mirroring}
    {session : Session Console} {chip : Mmc3} {period acked passed : Nat} {enabled : Bool}
    (htimed : chip.Timed period acked passed enabled) (hchip : session.bus.chip = .mmc3 chip)
    (h : OnBoard .mmc3 prg chr solder session) (hready : session.controller.isReady = true)
    {action : Action} (haction : action.KeepsCounting) :
    let passed' := passed + action.rises chip.a12
    ∃ next, (action.perform session).2.bus.chip = .mmc3 next ∧
      next.Timed period (if action.isAcknowledge then passed' else acked) passed'
        (action.isAcknowledge || enabled) := by
  intro passed'
  have hpassed : ∀ req, action = .request req → passed' = passed := by
    rintro req rfl
    exact (congrArg (passed + ·) (Action.rises_request chip.a12 req)).trans (Nat.add_zero passed)
  rcases h.chip_perform rfl hready haction with
    ⟨rfl, heq⟩ | ⟨hack, heq | ⟨req, current, shadow, writes, rfl, hreq, hans, heq⟩⟩
  · obtain ⟨next, hnext, hacked, -⟩ := htimed.acknowledgeWrites
    refine ⟨next, by rw [heq, hchip, hnext], ?_⟩
    rw [hpassed _ rfl]
    exact hacked
  · rw [hack, heq, hchip]
    exact htimed.onChip action
  · obtain ⟨next, hnext, hsame⟩ := chip.sameCounter_answers hans hreq
    refine ⟨next, by rw [heq, hchip, hnext], ?_⟩
    rw [hack, hpassed req rfl]
    exact htimed.of_sameCounter hsame

/-! ## Whole runs -/

/-- An MMC3 whose counter was armed with address line 12 at `start`, and what happened since. -/
structure CountsRises (prg : Memory) (chr : Chr) (solder : Mirroring) (start : Bool) (period : Nat)
    (enabled : Bool) (timeline : Timeline) (session : Session Console) : Prop where
  onBoard : OnBoard .mmc3 prg chr solder session
  ready : session.controller.isReady = true
  counter : ∃ chip, session.bus.chip = .mmc3 chip ∧ chip.a12 = timeline.line start ∧
    chip.Timed period (timeline.upToAcknowledge.rises start) (timeline.rises start)
      (timeline.any Action.isAcknowledge || enabled)

namespace CountsRises

variable {prg : Memory} {chr : Chr} {solder : Mirroring} {start enabled : Bool} {period : Nat}
  {timeline : Timeline} {session : Session Console}

/-- Arming starts a new count, at the level that the line has then. -/
theorem arm (h : OnBoard .mmc3 prg chr solder session)
    (hready : session.controller.isReady = true) (hline : session.bus.chip.line? = some start)
    (hpos : 0 < period) (hmax : period ≤ 256) (enabled : Bool) :
    let armed := session.request (.configureIrq period enabled)
    armed.1 = .ok () ∧ CountsRises prg chr solder start period enabled [] armed.2 := by
  intro armed
  obtain ⟨hok, hup, hwrites⟩ := h.request_configureIrq rfl hready hpos hmax enabled
  refine ⟨hok, h.request _, hup, ?_⟩
  rw [hwrites]
  cases hchip : session.bus.chip with
  | mmc3 chip =>
    rw [hchip] at hline
    obtain ⟨next, hnext, htimed, hkept⟩ := chip.timed_armWrites hpos hmax enabled
    exact ⟨next, hnext, hkept.trans (Option.some.inj hline), htimed⟩
  | nrom | mmc1 | mmc2 | action53 | fme7 | discrete =>
    rw [hchip] at hline
    cases hline

theorem perform (h : CountsRises prg chr solder start period enabled timeline session)
    {action : Action} (haction : action.KeepsCounting) :
    CountsRises prg chr solder start period enabled (timeline ++ [action])
      (action.perform session).2 := by
  obtain ⟨chip, hchip, hline, htimed⟩ := h.counter
  obtain ⟨next, hnext, hcounted⟩ := htimed.perform hchip h.onBoard h.ready haction
  have hlevel : session.bus.chip.line? = some (timeline.line start) := by
    rw [hchip, ← hline]
    rfl
  have hmoved := action.line?_perform hlevel
  rw [hnext, ← Timeline.line_append] at hmoved
  refine ⟨h.onBoard.perform action, action.isReady_perform h.ready, next, hnext,
    Option.some.inj hmoved, ?_⟩
  rw [hline, ← Timeline.rises_append] at hcounted
  have hacked : (Timeline.upToAcknowledge (timeline ++ [action])).rises start =
      if action.isAcknowledge then Timeline.rises start (timeline ++ [action])
      else timeline.upToAcknowledge.rises start := by
    rw [Timeline.upToAcknowledge_append]
    exact apply_ite ..
  have hany : ((timeline ++ [action]).any Action.isAcknowledge || enabled) =
      (action.isAcknowledge || (timeline.any Action.isAcknowledge || enabled)) := by
    rw [List.any_append, Bool.or_comm (timeline.any _), Bool.or_assoc]
    simp only [List.any_cons, List.any_nil, Bool.or_false]
  rwa [hacked, hany]

/-- A handler's end writes the select register alone. -/
theorem restore (h : CountsRises prg chr solder start period enabled timeline session)
    {saved : UInt8} (hsaved : Board.mmc3.IsSelect saved) :
    CountsRises prg chr solder start period enabled timeline (session.restore saved) := by
  obtain ⟨chip, hchip, hline, htimed⟩ := h.counter
  refine ⟨h.onBoard.restore hsaved, (session.isReady_restore saved).trans h.ready, ?_⟩
  rcases h.onBoard.chip_restore hsaved with heq | heq
  · exact ⟨chip, heq.trans hchip, hline, htimed⟩
  · obtain ⟨next, hnext, hsame⟩ := chip.sameCounter_withSelect saved
    rw [hchip, hnext] at heq
    exact ⟨next, heq, hsame.a12_eq.trans hline, htimed.of_sameCounter hsame⟩

theorem run (h : CountsRises prg chr solder start period enabled [] session)
    {script : Script Action} (hscript : script.Forall Action.KeepsCounting) :
    CountsRises prg chr solder start period enabled script.actions
      (script.run Action.perform session).2 :=
  Script.run_preserves_trace
    (fun made _ now => CountsRises prg chr solder start period enabled made now)
    (fun _ haction _ _ _ hnow => hnow.perform haction)
    (fun _ _ _ _ _ _ hbefore hafter => hafter.restore hbefore.onBoard.isSelect)
    hscript [] [] session h

/-- The line is up if a deadline has passed since the last acknowledgement. -/
theorem irq_iff (h : CountsRises prg chr solder start period enabled timeline session) :
    session.bus.cart.irq = true ↔
      (enabled = true ∨ .request .acknowledgeIrq ∈ timeline) ∧
        DueWithin (period ∣ ·) (timeline.upToAcknowledge.rises start) (timeline.rises start) := by
  obtain ⟨chip, hchip, -, htimed⟩ := h.counter
  have hirq : session.bus.cart.irq = chip.irqPending := congrArg Chip.irq hchip
  rw [hirq, htimed.pending, Bool.or_eq_true, Timeline.any_isAcknowledge, or_comm]

end CountsRises

/-- From any state of an MMC3 board that has been brought up: a period from 1 to 256 is accepted,
and while the program neither arms the counter again nor brings the board up again, the line is up
exactly if it is not masked and a multiple of the period lies among the rises of address line 12
since the last acknowledgement. Masked means armed so and not acknowledged since. The next IRQ
comes with the first such multiple. -/
theorem mmc3_irq_follows_rises (header : Header) (prg : Memory) (chr : Chr) (solder : Mirroring)
    (before script : Script Action) (period : Nat) (enabled : Bool) (hpos : 0 < period)
    (hmax : period ≤ 256)
    (hready : (before.run Action.perform
      (Session.powerOn .mmc3 header prg chr solder)).2.controller.isReady = true)
    (hscript : script.Forall Action.KeepsCounting) :
    let start := (before.run Action.perform (Session.powerOn .mmc3 header prg chr solder)).2
    let armed := start.request (.configureIrq period enabled)
    let ran := script.run Action.perform armed.2
    let level := Timeline.line false before.actions
    let timeline : Timeline := script.actions
    let passed := timeline.rises level
    let acked := timeline.upToAcknowledge.rises level
    let unmasked := enabled = true ∨ .request .acknowledgeIrq ∈ timeline
    armed.1 = .ok () ∧
      (ran.2.bus.cart.irq = true ↔
        unmasked ∧ ∃ rise, period ∣ rise ∧ acked < rise ∧ rise ≤ passed) ∧
      (ran.2.bus.cart.irq = true ↔ unmasked ∧ (acked / period + 1) * period ≤ passed) := by
  intro start armed ran level timeline passed acked unmasked
  have hboard : OnBoard .mmc3 prg chr solder start := (OnBoard.powerOn ..).run before
  have hline : start.bus.chip.line? = some level := before.line?_run rfl
  obtain ⟨hok, harmed⟩ := CountsRises.arm hboard hready hline hpos hmax enabled
  have hirq := (harmed.run hscript).irq_iff
  refine ⟨hok, hirq, ?_⟩
  rw [hirq, dueWithin_dvd_iff hpos]

/-- Armed masked with the line high, acknowledged after one rise, and interrupted by a handler that
changes a CHR bank: the second rise brings the IRQ. -/
theorem mmc3_irq_follows_rises_acknowledged :
    let cart := Cartridge.ofParts .mmc3 #[] (.ram 0x2000) .vertical
    let before : Script Action :=
      .act (.writeCpu 0xE001 0) (.act (.request .bringUp) (.act (.readPpu 0x1FF0) .done))
    let start := (before.run Action.perform
      (Session.powerOn .mmc3 cart.header #[] (.ram 0x2000) .vertical)).2
    let body : Script Action := .act (.request (.selectChr 0 3)) (.act (.readPpu 0x0000) .done)
    let script : Script Action :=
      .act (.readPpu 0x1000) (.act (.readPpu 0x0000) (.act (.writePpu 0x1000 5)
        (.act (.request .acknowledgeIrq) (.handler body (.act (.readPpu 0x1000) .done)))))
    let ran := script.run Action.perform (start.request (.configureIrq 2 false)).2
    (0 < 2 ∧ 2 ≤ 256 ∧ start.controller.isReady = true ∧ script.Forall Action.KeepsCounting) ∧
      ran.2.bus.cart.irq = true := by
  intro cart before start body script ran
  have hready : start.controller.isReady = true := rfl
  have hscript : script.Forall Action.KeepsCounting :=
    ⟨trivial, trivial, trivial, trivial, ⟨trivial, trivial, trivial⟩, trivial, trivial⟩
  have hirq := (mmc3_irq_follows_rises cart.header #[] (.ram 0x2000) .vertical before script 2 false
    (by decide) (by decide) hready hscript).2.2
  have hacked : .request .acknowledgeIrq ∈ script.actions :=
    Timeline.any_isAcknowledge.mp rfl
  exact ⟨⟨by decide, by decide, hready, hscript⟩, hirq.mpr ⟨Or.inr hacked, by decide⟩⟩

end NesCartridge
