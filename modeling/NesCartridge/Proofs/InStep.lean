/-
  NesCartridge.Proofs.InStep

  Controller and cartridge in step: the select register holds the byte that the controller notes,
  and the chip holds what its shadow says (`InStep`). Power-on starts in step, and requests,
  accesses that spare the mapper registers, and the end of a handler keep it so, whatever their
  order (`InStep.run`). From the first bring-up on the shadow is what the history says
  (`Tracks`).
-/
import NesCartridge.Proofs.Choices

namespace NesCartridge

/-- The controller and the cartridge agree on what is selected. -/
structure InStep (board : Board) (prg : Memory) (solder : Mirroring) (session : Session Console) :
    Prop where
  board_eq : session.controller.board = board
  prg_eq : session.bus.cart.hardware.prg = prg
  wram_size : session.bus.workRam.size = board.wramSize
  wired : session.bus.chip.Wired board solder
  isSelect : board.IsSelect session.controller.select
  select?_eq : session.bus.chip.select? = board.selectAddr?.map fun _ => session.controller.select
  shadow : ∀ shadow, session.controller.shadow = some shadow →
    shadow.Fits board ∧ session.bus.chip.Holds shadow

namespace InStep

variable {board : Board} {prg : Memory} {solder : Mirroring} {session : Session Console}

theorem selectsOn (h : InStep board prg solder session) : session.bus.chip.SelectsOn board := by
  intro byte hbyte
  rw [h.select?_eq] at hbyte
  obtain ⟨_, -, rfl⟩ := Option.map_eq_some_iff.mp hbyte
  exact h.isSelect

/-- A cartridge that was just switched on is in step with a new controller. -/
theorem start {cart : Cartridge} {chr : Chr}
    (hcart : cart.hardware = .powerOn board prg chr solder) :
    InStep board prg solder (Session.start board (Console.powerOn cart)) where
  board_eq := rfl
  prg_eq := congrArg Hardware.prg hcart
  wram_size :=
    (congrArg (·.wram.size) hcart).trans (Hardware.size_wram_powerOn board prg chr solder)
  wired := by
    show cart.hardware.chip.Wired board solder
    rw [hcart]
    exact Chip.wired_powerOn board solder
  isSelect := by
    show (0 : UInt8) &&& board.selectMask = 0
    exact UInt8.zero_and
  select?_eq := by
    show cart.hardware.chip.select? = _
    rw [hcart]
    cases board <;> rfl
  shadow _ h := nomatch h

theorem onBoard (h : InStep board prg solder session) :
    OnBoard board prg session.bus.patterns solder session where
  board_eq := h.board_eq
  prg_eq := h.prg_eq
  wram_size := h.wram_size
  kind := Chr.sameKind_refl _
  wired := h.wired
  isSelect := h.isSelect

theorem request (h : InStep board prg solder session) (hquiet : prg.Quiet board) (req : Request) :
    InStep board prg solder (session.request req).2 := by
  rcases h.onBoard.request_cases hquiet req with
    ⟨error, heq⟩ | ⟨current, after, writes, hans, hcurrent, heq⟩
  · rwa [heq]
  · have hemits : ∀ w ∈ writes, board.Emits w := fun w hw => Board.emits_of_answers hans hw
    have hnext : after.Fits board ∧ (session.bus.chip.writeAll writes).Holds after := by
      rcases hcurrent with hcurrent | rfl
      · obtain ⟨hfits, hholds⟩ := h.shadow current hcurrent
        exact ⟨hfits.answers hans, h.wired.holds_answers hholds hfits hans⟩
      · cases hans
        exact ⟨Shadow.fits_atBringUp board, h.wired.holds_bringUp⟩
    rw [heq]
    refine ⟨h.board_eq, h.prg_eq, h.wram_size, h.wired.writeAll writes, ?_, ?_, ?_⟩
    · have hselect := h.isSelect
      rw [← h.board_eq] at hselect hemits ⊢
      exact Controller.isSelect_selectAfter hselect hemits
    · have hselect := h.wired.select?_writeAll hemits h.select?_eq
      rw [← h.board_eq] at hselect ⊢
      exact hselect
    · intro shadow hshadow
      cases hshadow
      exact hnext

theorem restore (h : InStep board prg solder session) {saved : UInt8}
    (hsaved : board.IsSelect saved) : InStep board prg solder (session.restore saved) := by
  cases haddr : board.selectAddr? with
  | none => rwa [h.onBoard.restore_eq_self haddr]
  | some addr =>
    -- The wiring survives the write itself; the rest is read off the chip that it leaves.
    have hwired := h.wired.write addr saved
    rw [h.wired.write_selectAddr haddr hsaved] at hwired
    rw [h.onBoard.restore_eq haddr hsaved]
    refine ⟨h.board_eq, h.prg_eq, h.wram_size, hwired, hsaved, ?_, fun shadow hshadow => ?_⟩
    · have hselect := h.wired.select?_write (Board.emits_select haddr hsaved)
      rw [if_pos haddr, h.wired.write_selectAddr haddr hsaved] at hselect
      rw [haddr]
      exact hselect
    · obtain ⟨hfits, hholds⟩ := h.shadow shadow hshadow
      exact ⟨hfits, hholds.withSelect saved⟩

/-- What does not disturb the chip leaves everything in step. -/
theorem of_keeps (h : InStep board prg solder session) {console : Console}
    (hkeeps : session.bus.Keeps console) :
    InStep board prg solder { session with bus := console } where
  board_eq := h.board_eq
  prg_eq := hkeeps.prg.trans h.prg_eq
  wram_size := hkeeps.wram.trans h.wram_size
  wired := hkeeps.chip.wired h.wired
  isSelect := h.isSelect
  select?_eq := hkeeps.chip.select.trans h.select?_eq
  shadow shadow hshadow := by
    obtain ⟨hfits, hholds⟩ := h.shadow shadow hshadow
    exact ⟨hfits, hkeeps.chip.holds hholds⟩

theorem perform_of_sparesChip (h : InStep board prg solder session) (hquiet : prg.Quiet board)
    {action : Action} (hspares : action.SparesChip session.bus.chip) :
    InStep board prg solder (action.perform session).2 := by
  cases action with
  | request req => exact h.request hquiet req
  | readCpu addr => exact h
  | writeCpu addr data => exact h.of_keeps (session.bus.keeps_writeCpu hspares)
  | readPpu addr => exact h.of_keeps (session.bus.keeps_readPpu addr)
  | writePpu addr data => exact h.of_keeps (session.bus.keeps_writePpu addr data)
  | tick cycles => exact h.of_keeps (session.bus.keeps_tick cycles)

theorem perform (h : InStep board prg solder session) (hquiet : prg.Quiet board) {action : Action}
    (hspares : action.SparesRegisters) : InStep board prg solder (action.perform session).2 :=
  h.perform_of_sparesChip hquiet (hspares.sparesChip _)

/-- On most boards every CPU write below PRG memory is no matter to the chip. -/
theorem sparesChip (h : InStep board prg solder session) (hboard : board ≠ .action53)
    {action : Action} (hlow : action.StaysLow) : action.SparesChip session.bus.chip := by
  apply hlow.sparesChip
  intro c hchip
  have hwired := h.wired
  rw [hchip] at hwired
  cases hwired
  exact hboard rfl

theorem run_of_sparesChip (h : InStep board prg solder session) (hquiet : prg.Quiet board)
    {p : Action → Prop} (hspares : ∀ action, p action → ∀ now, InStep board prg solder now →
      action.SparesChip now.bus.chip) {script : Script Action} (hscript : script.Forall p) :
    InStep board prg solder (script.run Action.perform session).2 := by
  have hact : ∀ action, p action → ∀ (_ : History) now, InStep board prg solder now →
      InStep board prg solder (action.perform now).2 :=
    fun action haction _ now hnow => hnow.perform_of_sparesChip hquiet (hspares _ haction now hnow)
  exact Script.run_preserves (fun _ => InStep board prg solder) hact
    (fun _ _ _ _ hbefore hafter => hafter.restore hbefore.isSelect) hscript [] session h

/-- A whole run stays in step. -/
theorem run (h : InStep board prg solder session) (hquiet : prg.Quiet board)
    {script : Script Action} (hspares : script.Forall Action.SparesRegisters) :
    InStep board prg solder (script.run Action.perform session).2 :=
  h.run_of_sparesChip hquiet (fun _ haction _ _ => haction.sparesChip _) hspares

end InStep

/-! ## The history behind the shadow -/

/-- The board has been brought up, and its banks are those that the history names. -/
def Tracks (history : History) (session : Session Console) : Prop :=
  ∃ shadow, session.controller.shadow = some shadow ∧
    (∀ i, shadow.prgBank i = history.prgBank i) ∧ ∀ i, shadow.chrBank i = history.chrBank i

namespace Tracks

variable {board : Board} {prg : Memory} {solder : Mirroring} {session : Session Console}

/-- A whole run that starts with the board brought up, from power-on. -/
theorem run {session : Session Console} (hstep : InStep board prg solder session)
    (hquiet : prg.Quiet board) {script : Script Action}
    (hspares : script.Forall Action.SparesRegisters) :
    let ran := (Script.act (.request .bringUp) script).run Action.perform session
    InStep board prg solder ran.2 ∧ Tracks ran.1 ran.2 := by
  intro ran
  have hwhole : (Script.act (.request .bringUp) script).Forall Action.SparesRegisters :=
    ⟨trivial, hspares⟩
  obtain ⟨shadow, hshadow, -, hnoted⟩ := (Session.follows_bringUp_run hstep.board_eq script).shadow
  exact ⟨hstep.run hquiet hwhole, shadow, hshadow, fun i => hnoted _ (.prgBank board i),
    fun i => hnoted _ (.chrBank board i)⟩

end Tracks

end NesCartridge
