/-
  NesCartridge.Proofs.Irq.CycleCount

  The cycle IRQ of FME-7 over whole runs. Once the counter was let go the line is up exactly if the
  counter has wrapped since it was last acknowledged, which it does after the period and then every
  65536 cycles, whatever else the program did in between (`fme7_irq_follows_cycles`). A counter that
  was armed masked stands still until the first acknowledgement lets it go.
-/
import NesCartridge.Proofs.Irq.Counters
import NesCartridge.Proofs.Irq.Timeline

namespace NesCartridge

/-! ## Single actions -/

namespace Fme7

variable {prg : Memory} {chr : Chr} {solder : Mirroring} {session : Session Console} {chip : Fme7}
  {period acked passed : Nat} {action : Action}

/-- The chip does not look at pattern accesses. -/
theorem onChip_eq (chip : Fme7) (action : Action) :
    action.onChip (.fme7 chip) = action.cycles.repeat Chip.clock (.fme7 chip) := by
  rw [Action.onChip]
  cases action.patternAddr? <;> rfl

/-- One action of a program while the counter runs. -/
theorem Timed.perform (htimed : chip.Timed period acked passed) (hpos : 0 < period)
    (hmax : period ≤ 0x10000) (hchip : session.bus.chip = .fme7 chip)
    (h : OnBoard .fme7 prg chr solder session) (hready : session.controller.isReady = true)
    (haction : action.KeepsCounting) :
    let passed' := passed + action.cycles
    ∃ next, (action.perform session).2.bus.chip = .fme7 next ∧
      next.Timed period (if action.isAcknowledge then passed' else acked) passed' := by
  intro passed'
  rcases h.chip_perform rfl hready haction with
    ⟨rfl, heq⟩ | ⟨hack, heq | ⟨req, current, shadow, writes, rfl, hreq, hans, heq⟩⟩
  · exact ⟨_, by rw [heq, hchip]; exact writeAll_fme7Writes .., htimed.restart⟩
  · rw [hack, heq, hchip, onChip_eq]
    exact htimed.clocks hpos hmax action.cycles
  · obtain ⟨next, hnext, hsame⟩ := chip.sameCounter_answers hans hreq
    refine ⟨next, by rw [heq, hchip, hnext], ?_⟩
    rw [hack]
    exact htimed.of_sameCounter hsame

/-- One action of a program while the counter stands still: an acknowledgement lets it go. -/
theorem Loaded.perform (hloaded : chip.Loaded period) (hpos : 0 < period)
    (hmax : period ≤ 0x10000) (hchip : session.bus.chip = .fme7 chip)
    (h : OnBoard .fme7 prg chr solder session) (hready : session.controller.isReady = true)
    (haction : action.KeepsCounting) :
    ∃ next, (action.perform session).2.bus.chip = .fme7 next ∧
      if action.isAcknowledge then next.Timed period 0 0 else next.Loaded period := by
  rcases h.chip_perform rfl hready haction with
    ⟨rfl, heq⟩ | ⟨hack, heq | ⟨req, current, shadow, writes, rfl, hreq, hans, heq⟩⟩
  · exact ⟨_, by rw [heq, hchip]; exact writeAll_fme7Writes .., hloaded.start hpos hmax⟩
  · rw [hack, heq, hchip, onChip_eq, clocks_of_stopped hloaded.stopped]
    exact ⟨chip, rfl, hloaded⟩
  · obtain ⟨next, hnext, hsame⟩ := chip.sameCounter_answers hans hreq
    refine ⟨next, by rw [heq, hchip, hnext], ?_⟩
    rw [hack]
    exact hloaded.of_sameCounter hsame

end Fme7

/-! ## Whole runs -/

namespace Timeline

/-- The part of a timeline during which a counter runs that was armed at its start. -/
def counted (enabled : Bool) (timeline : Timeline) : Timeline :=
  if enabled then timeline else timeline.fromAcknowledge

/-- The counter runs in the end. -/
def running (enabled : Bool) (timeline : Timeline) : Bool :=
  timeline.any Action.isAcknowledge || enabled

variable {enabled : Bool} {timeline : Timeline}

theorem running_append (action : Action) :
    running enabled (timeline ++ [action]) =
      (running enabled timeline || action.isAcknowledge) := by
  simp only [running, List.any_append, List.any_cons, List.any_nil, Bool.or_false]
  rw [Bool.or_assoc, Bool.or_comm action.isAcknowledge, ← Bool.or_assoc]

/-- While the counter runs every action counts. -/
theorem counted_append_of_running (h : running enabled timeline = true) (action : Action) :
    counted enabled (timeline ++ [action]) = counted enabled timeline ++ [action] := by
  cases enabled with
  | true => rfl
  | false =>
    rw [running, Bool.or_false] at h
    show fromAcknowledge (timeline ++ [action]) = _
    rw [fromAcknowledge_append, if_pos h]
    rfl

theorem counted_append_of_not_running (h : running enabled timeline = false) (action : Action) :
    counted enabled (timeline ++ [action]) = if action.isAcknowledge then [action] else [] := by
  obtain ⟨hnone, rfl⟩ := Bool.or_eq_false_iff.mp h
  show fromAcknowledge (timeline ++ [action]) = _
  rw [fromAcknowledge_append, hnone, if_neg Bool.false_ne_true]

end Timeline

/-- An FME-7 whose counter was armed, and what happened since. -/
structure CountsCycles (prg : Memory) (chr : Chr) (solder : Mirroring) (period : Nat)
    (enabled : Bool) (timeline : Timeline) (session : Session Console) : Prop where
  onBoard : OnBoard .fme7 prg chr solder session
  ready : session.controller.isReady = true
  counter : ∃ chip, session.bus.chip = .fme7 chip ∧
    let counted := timeline.counted enabled
    if timeline.running enabled then chip.Timed period counted.upToAcknowledge.cycles counted.cycles
    else chip.Loaded period

namespace CountsCycles

variable {prg : Memory} {chr : Chr} {solder : Mirroring} {enabled : Bool} {period : Nat}
  {timeline : Timeline} {session : Session Console}

/-- Arming starts a new count. -/
theorem arm (h : OnBoard .fme7 prg chr solder session)
    (hready : session.controller.isReady = true) (hpos : 0 < period) (hmax : period ≤ 0x10000)
    (enabled : Bool) :
    let armed := session.request (.configureIrq period enabled)
    armed.1 = .ok () ∧ CountsCycles prg chr solder period enabled [] armed.2 := by
  intro armed
  obtain ⟨hok, hup, hwrites⟩ := h.request_configureIrq rfl hready hpos hmax enabled
  refine ⟨hok, h.request _, hup, ?_⟩
  have hwired := h.wired
  rw [hwrites]
  generalize session.bus.chip = chip at hwired
  cases hwired with
  | @fme7 _ chip =>
    obtain ⟨next, hnext, hcounter⟩ := chip.timed_armWrites hpos hmax enabled
    refine ⟨next, hnext, ?_⟩
    cases enabled <;> exact hcounter
  | discrete hlayout => cases hlayout

theorem perform (h : CountsCycles prg chr solder period enabled timeline session)
    (hpos : 0 < period) (hmax : period ≤ 0x10000) {action : Action}
    (haction : action.KeepsCounting) :
    CountsCycles prg chr solder period enabled (timeline ++ [action])
      (action.perform session).2 := by
  obtain ⟨chip, hchip, hcounter⟩ := h.counter
  refine ⟨h.onBoard.perform action, action.isReady_perform h.ready, ?_⟩
  rw [Timeline.running_append]
  cases hrunning : timeline.running enabled with
  | true =>
    rw [hrunning, if_pos rfl] at hcounter
    obtain ⟨next, hnext, htimed⟩ :=
      hcounter.perform hpos hmax hchip h.onBoard h.ready haction
    have hacked : (Timeline.upToAcknowledge (timeline.counted enabled ++ [action])).cycles =
        if action.isAcknowledge then Timeline.cycles (timeline.counted enabled ++ [action])
        else (timeline.counted enabled).upToAcknowledge.cycles := by
      rw [Timeline.upToAcknowledge_append]
      exact apply_ite ..
    refine ⟨next, hnext, ?_⟩
    rw [Bool.true_or, if_pos rfl, Timeline.counted_append_of_running hrunning, hacked,
      Timeline.cycles_append]
    exact htimed
  | false =>
    rw [hrunning, if_neg Bool.false_ne_true] at hcounter
    obtain ⟨next, hnext, hlater⟩ :=
      hcounter.perform hpos hmax hchip h.onBoard h.ready haction
    refine ⟨next, hnext, ?_⟩
    rw [Bool.false_or, Timeline.counted_append_of_not_running hrunning]
    cases hack : action.isAcknowledge with
    | true =>
      -- The acknowledgement that lets the counter go takes no time itself.
      rw [hack] at hlater
      cases Action.isAcknowledge_iff.mp hack
      exact hlater
    | false =>
      rw [hack] at hlater
      exact hlater

/-- A handler's end writes the command register alone. -/
theorem restore (h : CountsCycles prg chr solder period enabled timeline session) {saved : UInt8}
    (hsaved : Board.fme7.IsSelect saved) :
    CountsCycles prg chr solder period enabled timeline (session.restore saved) := by
  obtain ⟨chip, hchip, hcounter⟩ := h.counter
  refine ⟨h.onBoard.restore hsaved, (session.isReady_restore saved).trans h.ready, ?_⟩
  rcases h.onBoard.chip_restore hsaved with heq | heq
  · exact ⟨chip, heq.trans hchip, hcounter⟩
  · obtain ⟨next, hnext, hsame⟩ := chip.sameCounter_withSelect saved
    rw [hchip, hnext] at heq
    refine ⟨next, heq, ?_⟩
    dsimp only at hcounter ⊢
    split at hcounter
    next hrunning =>
      rw [if_pos hrunning]
      exact hcounter.of_sameCounter hsame
    next hrunning =>
      rw [if_neg hrunning]
      exact hcounter.of_sameCounter hsame

theorem run (h : CountsCycles prg chr solder period enabled [] session) (hpos : 0 < period)
    (hmax : period ≤ 0x10000) {script : Script Action}
    (hscript : script.Forall Action.KeepsCounting) :
    CountsCycles prg chr solder period enabled script.actions
      (script.run Action.perform session).2 :=
  Script.run_preserves_trace
    (fun made _ now => CountsCycles prg chr solder period enabled made now)
    (fun _ haction _ _ _ hnow => hnow.perform hpos hmax haction)
    (fun _ _ _ _ _ _ hbefore hafter => hafter.restore hbefore.onBoard.isSelect)
    hscript [] [] session h

/-- The line is up if the counter has wrapped since the last acknowledgement. -/
theorem irq_iff (h : CountsCycles prg chr solder period enabled timeline session) :
    session.bus.cart.irq = true ↔
      let counted := timeline.counted enabled
      DueWithin (Fme7.Wraps period) counted.upToAcknowledge.cycles counted.cycles := by
  obtain ⟨chip, hchip, hcounter⟩ := h.counter
  have hirq : session.bus.cart.irq = chip.irqPending := congrArg Chip.irq hchip
  rw [hirq]
  cases hrunning : timeline.running enabled with
  | true =>
    rw [hrunning, if_pos rfl] at hcounter
    exact hcounter.pending
  | false =>
    rw [hrunning, if_neg Bool.false_ne_true] at hcounter
    -- A counter that never ran has counted nothing.
    obtain ⟨hnone, rfl⟩ := Bool.or_eq_false_iff.mp hrunning
    have hcounted : timeline.counted false = [] := Timeline.fromAcknowledge_eq_nil_iff.mpr hnone
    rw [hcounter.pending, hcounted]
    exact iff_of_false Bool.false_ne_true (not_dueWithin_self _ 0)

end CountsCycles

/-- From any state of an FME-7 board that has been brought up: a period from 1 to 65536 is accepted,
and while the program neither arms the counter again nor brings the board up again, the line is up
exactly if the period, or the period and a multiple of 65536, lies among the cycles since the last
acknowledgement. The count begins with the request, or where the counter was armed masked with the
first acknowledgement, before which the line stays down. -/
theorem fme7_irq_follows_cycles (header : Header) (prg : Memory) (chr : Chr) (solder : Mirroring)
    (before script : Script Action) (period : Nat) (enabled : Bool) (hpos : 0 < period)
    (hmax : period ≤ 65536)
    (hready : (before.run Action.perform
      (Session.powerOn .fme7 header prg chr solder)).2.controller.isReady = true)
    (hscript : script.Forall Action.KeepsCounting) :
    let start := (before.run Action.perform (Session.powerOn .fme7 header prg chr solder)).2
    let armed := start.request (.configureIrq period enabled)
    let ran := script.run Action.perform armed.2
    let timeline : Timeline := script.actions
    let counted := if enabled then timeline else timeline.fromAcknowledge
    let passed := counted.cycles
    let acked := counted.upToAcknowledge.cycles
    armed.1 = .ok () ∧
      (ran.2.bus.cart.irq = true ↔
        ∃ wraps, acked < period + 65536 * wraps ∧ period + 65536 * wraps ≤ passed) ∧
      (enabled = false → .request .acknowledgeIrq ∉ timeline → ran.2.bus.cart.irq = false) := by
  intro start armed ran timeline counted passed acked
  have hboard : OnBoard .fme7 prg chr solder start := (OnBoard.powerOn ..).run before
  obtain ⟨hok, harmed⟩ := CountsCycles.arm hboard hready hpos hmax enabled
  have hirq := (harmed.run hpos hmax hscript).irq_iff
  have hdue : ran.2.bus.cart.irq = true ↔
      ∃ wraps, acked < period + 65536 * wraps ∧ period + 65536 * wraps ≤ passed := by
    rw [hirq]
    constructor
    · rintro ⟨deadline, ⟨wraps, rfl⟩, hafter, hbefore⟩
      exact ⟨wraps, hafter, hbefore⟩
    · rintro ⟨wraps, hafter, hbefore⟩
      exact ⟨_, ⟨wraps, rfl⟩, hafter, hbefore⟩
  refine ⟨hok, hdue, ?_⟩
  rintro rfl hnone
  have hcounted : counted = [] := by
    refine Timeline.fromAcknowledge_eq_nil_iff.mpr (Bool.eq_false_iff.mpr fun hany => ?_)
    exact hnone (Timeline.any_isAcknowledge.mp hany)
  have hpassed : passed = 0 := congrArg Timeline.cycles hcounted
  rw [Bool.eq_false_iff, Ne, hdue]
  rintro ⟨wraps, hafter, hbefore⟩
  omega

/-- The shortest period, acknowledged after its first IRQ: the next comes 65536 cycles after it,
with a handler in between that names another parameter. -/
theorem fme7_irq_follows_cycles_wrapped :
    let cart := Cartridge.ofParts .fme7 #[] (.ram 0x2000) .vertical
    let before : Script Action := .act (.request .bringUp) (.act (.writeCpu 0xA000 0x55) .done)
    let start := (before.run Action.perform
      (Session.powerOn .fme7 cart.header #[] (.ram 0x2000) .vertical)).2
    let body : Script Action := .act (.request (.selectPrg 0 3)) .done
    let script : Script Action :=
      .act (.tick 10) (.act (.request .acknowledgeIrq) (.handler body (.act (.tick 65527) .done)))
    let ran := script.run Action.perform (start.request (.configureIrq 1 true)).2
    (0 < 1 ∧ 1 ≤ 65536 ∧ start.controller.isReady = true ∧ script.Forall Action.KeepsCounting) ∧
      ran.2.bus.cart.irq = true := by
  intro cart before start body script ran
  have hready : start.controller.isReady = true := rfl
  have hscript : script.Forall Action.KeepsCounting :=
    ⟨trivial, trivial, ⟨trivial, trivial⟩, trivial, trivial⟩
  have hirq := (fme7_irq_follows_cycles cart.header #[] (.ram 0x2000) .vertical before script 1 true
    (by decide) (by decide) hready hscript).2.1
  exact ⟨⟨by decide, by decide, hready, hscript⟩, hirq.mpr ⟨1, by decide, by decide⟩⟩

end NesCartridge
