/-
  NesCartridge.Proofs.Irq.Timeline

  A run as an IRQ counter lives through it: the level of PPU address line 12 and its rises, the CPU
  cycles, and the places where the line was acknowledged. Everything here is read off the actions
  alone; what the chip makes of them is said elsewhere.
-/
import Mathlib.Algebra.GroupWithZero.Nat
import Mathlib.Data.List.DropRight
import NesCartridge.Proofs.OnBoard

namespace NesCartridge

/-! ## Single actions -/

namespace Action

/-- Level of address line 12 after the action, with `level` before it. Only accesses to pattern
memory are seen by a cartridge. -/
def lineAfter (level : Bool) (action : Action) : Bool :=
  match action.patternAddr? with
  | some addr => decide (addr.toNat / 0x1000 % 2 = 1)
  | none => level

/-- Rises of address line 12 that come with the action: one or none. -/
def rises (level : Bool) (action : Action) : Nat :=
  if action.lineAfter level && !level then 1 else 0

def isAcknowledge : Action → Bool
  | request .acknowledgeIrq => true
  | _ => false

/-- The action neither arms the IRQ counter nor stops it, and writes no register behind the
controller's back. -/
def KeepsCounting : Action → Prop
  | request .bringUp | request (.configureIrq ..) => False
  | action => action.SparesRegisters

theorem isAcknowledge_iff {action : Action} :
    action.isAcknowledge = true ↔ action = .request .acknowledgeIrq := by
  constructor
  · intro h
    unfold isAcknowledge at h
    split at h
    · rfl
    · cases h
  · rintro rfl
    rfl

theorem KeepsCounting.sparesRegisters {action : Action} (h : action.KeepsCounting) :
    action.SparesRegisters := by
  cases action with
  | request => exact trivial
  | readCpu | writeCpu | readPpu | writePpu | tick => exact h

/-- Requests are no pattern accesses. -/
theorem rises_request (level : Bool) (req : Request) : (request req).rises level = 0 := by
  show (if level && !level then 1 else 0) = 0
  rw [Bool.and_not_self, if_neg Bool.false_ne_true]

end Action

/-! ## Timelines -/

/-- What happened, oldest first. -/
abbrev Timeline := List Action

namespace Timeline

/-- Level of address line 12 in the end. -/
def line (start : Bool) (timeline : Timeline) : Bool :=
  timeline.foldl Action.lineAfter start

/-- Number of rises of address line 12. -/
def rises (start : Bool) : Timeline → Nat
  | [] => 0
  | action :: rest => action.rises start + rises (action.lineAfter start) rest

/-- Number of CPU cycles. -/
def cycles (timeline : Timeline) : Nat :=
  (timeline.map Action.cycles).sum

/-- The timeline up to the last acknowledgement, nothing without one. -/
def upToAcknowledge (timeline : Timeline) : Timeline :=
  timeline.rdropWhile fun action => !action.isAcknowledge

/-- The timeline from the first acknowledgement on, nothing without one. -/
def fromAcknowledge (timeline : Timeline) : Timeline :=
  timeline.dropWhile fun action => !action.isAcknowledge

variable (timeline : Timeline) (action : Action) (start : Bool)

theorem line_append : line start (timeline ++ [action]) = action.lineAfter (line start timeline) :=
  List.foldl_concat ..

theorem rises_append :
    rises start (timeline ++ [action]) =
      rises start timeline + action.rises (line start timeline) := by
  induction timeline generalizing start with
  | nil => exact Nat.add_comm ..
  | cons first rest ih =>
    show first.rises start + rises (first.lineAfter start) (rest ++ [action]) = _
    rw [ih, ← Nat.add_assoc]
    rfl

theorem cycles_append : cycles (timeline ++ [action]) = cycles timeline + action.cycles := by
  rw [cycles, List.map_append, List.sum_append]
  rfl

theorem upToAcknowledge_append :
    upToAcknowledge (timeline ++ [action]) =
      if action.isAcknowledge then timeline ++ [action] else upToAcknowledge timeline := by
  rw [upToAcknowledge, List.rdropWhile_concat]
  cases action.isAcknowledge <;> rfl

theorem any_isAcknowledge {timeline : Timeline} :
    timeline.any Action.isAcknowledge = true ↔ .request .acknowledgeIrq ∈ timeline := by
  rw [List.any_eq_true]
  constructor
  · rintro ⟨action, hmem, hack⟩
    rwa [Action.isAcknowledge_iff.mp hack] at hmem
  · intro hmem
    exact ⟨_, hmem, rfl⟩

/-- Without an acknowledgement there is nothing from the first one on. -/
theorem fromAcknowledge_eq_nil_iff {timeline : Timeline} :
    fromAcknowledge timeline = [] ↔ timeline.any Action.isAcknowledge = false := by
  simp only [fromAcknowledge, List.dropWhile_eq_nil_iff, List.any_eq_false, Bool.not_eq_true',
    Bool.not_eq_true]

theorem fromAcknowledge_append :
    fromAcknowledge (timeline ++ [action]) =
      if timeline.any Action.isAcknowledge then fromAcknowledge timeline ++ [action]
      else if action.isAcknowledge then [action] else [] := by
  have hempty : (timeline.dropWhile fun action => !action.isAcknowledge).isEmpty =
      !timeline.any Action.isAcknowledge := by
    rw [Bool.eq_iff_iff, List.isEmpty_iff, Bool.not_eq_true']
    exact fromAcknowledge_eq_nil_iff
  rw [fromAcknowledge, List.dropWhile_append, hempty, List.dropWhile_cons]
  cases timeline.any Action.isAcknowledge <;> cases action.isAcknowledge <;> rfl

end Timeline

/-! ## What happens to the chip -/

/-- The counter can be armed with any period that it has room for. -/
theorem OnBoard.request_configureIrq {board : Board} {prg : Memory} {chr : Chr}
    {solder : Mirroring} {session : Session Console} (h : OnBoard board prg chr solder session)
    (hirq : board.descriptor.supportsIrq = true) (hready : session.controller.isReady = true)
    {period : Nat} (hpos : 0 < period) (hmax : period ≤ board.descriptor.irq.maxPeriod)
    (enabled : Bool) :
    let armed := session.request (.configureIrq period enabled)
    armed.1 = .ok () ∧ armed.2.controller.isReady = true ∧
      armed.2.bus.chip = session.bus.chip.writeAll (board.armWrites (period - 1) enabled) := by
  intro armed
  obtain ⟨current, hcurrent⟩ := Option.isSome_iff_exists.mp hready
  have hnow : armed = _ := h.request_of_answers (Memory.quiet_of_irq hirq prg) hcurrent
    (.configureIrq hirq hpos hmax)
  rw [hnow]
  exact ⟨rfl, rfl, rfl⟩

/-- All that can happen to the chip while the counter is armed: the writes of an acknowledgement,
those of an accepted request that is not about IRQs, or what an access lets it notice. -/
theorem OnBoard.chip_perform {board : Board} {prg : Memory} {chr : Chr} {solder : Mirroring}
    {session : Session Console} (h : OnBoard board prg chr solder session)
    (hirq : board.descriptor.supportsIrq = true) (hready : session.controller.isReady = true)
    {action : Action} (haction : action.KeepsCounting) :
    let before := session.bus.chip
    let after := (action.perform session).2.bus.chip
    (action = .request .acknowledgeIrq ∧ after = before.writeAll board.acknowledgeWrites) ∨
      action.isAcknowledge = false ∧
        (after = action.onChip before ∨
          ∃ req current shadow writes, action = .request req ∧ req.LeavesCounter ∧
            board.Answers current req shadow writes ∧ after = before.writeAll writes) := by
  intro before after
  have hquiet := Memory.quiet_of_irq hirq prg
  cases action with
  | request req =>
    have hleave : req.LeavesCounter →
        after = before ∨ ∃ req' current shadow writes, Action.request req = .request req' ∧
          req'.LeavesCounter ∧ board.Answers current req' shadow writes ∧
          after = before.writeAll writes := by
      intro hreq
      rcases h.chip_request hquiet req with heq | ⟨current, shadow, writes, hans, heq⟩
      · exact Or.inl heq
      · exact Or.inr ⟨req, current, shadow, writes, rfl, hreq, hans, heq⟩
    cases req with
    | bringUp | configureIrq => exact haction.elim
    | acknowledgeIrq =>
      obtain ⟨current, hcurrent⟩ := Option.isSome_iff_exists.mp hready
      have hrequest := h.request_of_answers hquiet hcurrent (.acknowledgeIrq hirq)
      exact Or.inl ⟨rfl, congrArg (fun made => made.2.bus.chip) hrequest⟩
    | selectPrg | selectChr | setMirroring | setWram => exact Or.inr ⟨rfl, hleave trivial⟩
  | readCpu | writeCpu | readPpu | writePpu | tick =>
    exact Or.inr ⟨rfl,
      Or.inl (Action.chip_access (haction.sparesRegisters.sparesChip _) fun _ => nofun)⟩

end NesCartridge
