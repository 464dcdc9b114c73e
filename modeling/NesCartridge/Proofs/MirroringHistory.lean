/-
  NesCartridge.Proofs.MirroringHistory

  The nametables are wired the way that was asked for last. On boards that can switch their
  mirroring, the cartridge shows the mode of the last accepted request since the board was brought
  up; on the others it shows the soldered one for good (`mirroring_refines_history`). The bits of
  the mode share registers with banks and are sent again with every bank, so what has to be seen is
  that they come out the same each time. The one memory that spoils this is the empty one
  (`axRom_upper_screen_needs_prg`).
-/
import NesCartridge.Proofs.BringUp

namespace NesCartridge

/-! ## The history of the mode -/

/-- Requests that name no mode leave the mode in force, accepted or not. -/
theorem History.mirroring_append_of_other (past : History) (board : Board) {req : Request}
    (hbringUp : req ≠ .bringUp) (hother : ∀ mode, req ≠ .setMirroring mode)
    (outcome : Except MapperError Unit) :
    mirroring (past ++ [⟨req, outcome⟩]) board = past.mirroring board := by
  rw [mirroring, last_append]
  cases outcome with
  | error error => rfl
  | ok =>
    rw [choose_ok _ _ _ hbringUp]
    cases req with
    | setMirroring mode => exact absurd rfl (hother mode)
    | bringUp | selectPrg | selectChr | setWram | configureIrq | acknowledgeIrq => rfl

/-- A controller names a mode exactly on boards that can switch it, and then the last one that was
accepted. -/
theorem Controller.Follows.mirroring_eq {ctl : Controller} {board : Board} {past : History}
    (h : ctl.Follows board past) :
    ctl.mirroring =
      if board.descriptor.mirroring.hasChoice then some (past.mirroring board) else none :=
  h.bind_eq (.mirroring board) (fun _ => rfl) fun _ hfits => hfits.mirroring_isSome

/-! ## The mode of the cartridge -/

/-- A board that cannot switch its mirroring has the soldered one. -/
theorem Chip.Wired.mirroring_soldered {board : Board} {solder : Mirroring} {chip : Chip}
    (h : chip.Wired board solder) (hchoice : board.descriptor.mirroring.hasChoice = false) :
    chip.mirroring = solder := by
  cases h with
  | nrom => rfl
  | mmc1 | mmc2 | mmc4 | mmc3 | action53 | fme7 => cases hchoice
  | discrete hlayout =>
    -- A layout without a screen field belongs to every latch whose mirroring is soldered.
    cases board with
    | uxRom | cnRom | colorDreams | bnRom | gnRom => cases hlayout; rfl
    | axRom | unrom512 => cases hchoice
    | nrom | mmc1 | mmc3 | mmc2 | mmc4 | action53 | fme7 => cases hlayout

/-- A cartridge in step shows the last accepted mode. -/
theorem InStep.mirroring_eq_history {board : Board} {prg : Memory} {solder : Mirroring}
    {session : Session Console} {past : History} (h : InStep board prg solder session)
    (hfollows : session.controller.Follows board past)
    (hchoice : board.descriptor.mirroring.hasChoice = true) :
    session.bus.cart.mirroring = past.mirroring board := by
  obtain ⟨shadow, hshadow, -, hnoted⟩ := hfollows.shadow
  rw [h.mirroring_eq hshadow hchoice]
  exact hnoted _ (.mirroring board)

/-- Where the ROM drives the data lines and the mirroring can be switched, it is an AxROM board. -/
theorem Memory.quiet_of_choice {board : Board} {prg : Memory}
    (hchoice : board.descriptor.mirroring.hasChoice = true)
    (h : board.descriptor.busConflicts = true → board = .axRom →
      PrgLength prg.size ∧ prg.HasIdentityTables) : prg.Quiet board := by
  intro hconflicts
  refine h hconflicts ?_
  cases board with
  | axRom => rfl
  | uxRom | cnRom | colorDreams | bnRom | gnRom => cases hchoice
  | nrom | mmc1 | mmc3 | mmc2 | mmc4 | action53 | unrom512 | fme7 => cases hconflicts

/-- Whatever the cartridge went through, from a bring-up on its mirroring is the last mode that was
accepted, or the first that the board has; a board without a choice keeps the soldered mode, and its
controller names none. Selecting banks, gating the work RAM and using the IRQ change nothing of it.
-/
theorem mirroring_refines_history (board : Board) (prg : Memory) (chr : Chr) (solder : Mirroring)
    (hlength : board.descriptor.busConflicts = true →
      (∃ k, prg.size = 2 ^ k ∧ 0x2000 ≤ prg.size) ∨ 0x8000 ∣ prg.size)
    (htables : board.descriptor.busConflicts = true → prg.HasIdentityTables)
    (hpos : board = .axRom → 0 < prg.size)
    (before script : Script Action) (hspares : script.Forall Action.SparesRegisters) :
    let cart := Cartridge.ofParts board prg chr solder
    let start := (before.run Action.perform (Session.start board (Console.powerOn cart))).2
    let ran := (Script.act (.request .bringUp) script).run Action.perform start
    ran.2.controller.mirroring.isSome = board.descriptor.mirroring.hasChoice ∧
      (∀ mode, ran.2.controller.mirroring = some mode →
        ran.2.bus.cart.mirroring = mode ∧ mode = ran.1.mirroring board) ∧
      (ran.2.controller.mirroring = none → ran.2.bus.cart.mirroring = cart.header.mirroring) ∧
      ∀ req, req ≠ .bringUp → (∀ mode, req ≠ .setMirroring mode) →
        (ran.2.request req).2.bus.cart.mirroring = ran.2.bus.cart.mirroring := by
  intro cart start ran
  have hstart : OnBoard board prg chr solder start :=
    (OnBoard.powerOn board cart.header prg chr solder).run before
  have hfollows : ran.2.controller.Follows board ran.1 :=
    Session.follows_bringUp_run hstart.board_eq script
  have hnoted := hfollows.mirroring_eq
  cases hchoice : board.descriptor.mirroring.hasChoice with
  | true =>
    have hquiet : prg.Quiet board := Memory.quiet_of_choice hchoice fun hconflicts haxRom =>
      ⟨(hlength hconflicts).imp_right fun hdvd => ⟨hpos haxRom, hdvd⟩, htables hconflicts⟩
    have hstep : InStep board prg solder ran.2 := hstart.inStep_bringUp.run hquiet hspares
    have hshown := hstep.mirroring_eq_history hfollows hchoice
    rw [hchoice, if_pos rfl] at hnoted
    refine ⟨congrArg Option.isSome hnoted, fun mode hmode => ?_, fun hnone => ?_,
      fun req hbringUp hother => ?_⟩
    · cases hnoted.symm.trans hmode
      exact ⟨hshown, rfl⟩
    · cases hnoted.symm.trans hnone
    · have hafter := (hstep.request hquiet req).mirroring_eq_history
        (Session.follows_request hfollows req) hchoice
      rw [hshown, ← ran.1.mirroring_append_of_other board hbringUp hother (ran.2.request req).1]
      exact hafter
  | false =>
    have hran : OnBoard board prg chr solder ran.2 := hstart.run _
    have hshown : ran.2.bus.cart.mirroring = solder := hran.wired.mirroring_soldered hchoice
    rw [hchoice, if_neg Bool.false_ne_true] at hnoted
    refine ⟨congrArg Option.isSome hnoted, fun mode hmode => ?_, fun _ => hshown, fun req _ _ => ?_⟩
    · cases hnoted.symm.trans hmode
    · have hafter := (hran.request req).wired.mirroring_soldered hchoice
      exact hafter.trans hshown.symm

/-- The upper screen is selected, a handler switches the PRG bank through the same latch, and a mode
that the board lacks is refused. -/
theorem mirroring_refines_history_axRom :
    let prg := taggedPrg 0x10000
    let script : Script Action :=
      .act (.request (.setMirroring .oneScreenUpper))
        (.handler (.act (.request (.selectPrg 0 1)) .done)
          (.act (.request (.setMirroring .vertical)) .done))
    let ran := (Script.act (.request .bringUp) script).run Action.perform
      (Session.start .axRom
        (Console.powerOn (Cartridge.ofParts .axRom prg (.ram 0x2000) .horizontal)))
    0x8000 ∣ prg.size ∧ prg.HasIdentityTables ∧ 0 < prg.size ∧
      script.Forall Action.SparesRegisters ∧
        ran.2.controller.mirroring = some .oneScreenUpper ∧
          ran.2.bus.cart.mirroring = .oneScreenUpper := by
  intro prg script ran
  have hsize : prg.size = 0x10000 := size_taggedPrg 0x10000
  have hdvd : 0x8000 ∣ prg.size := by rw [hsize]; decide
  have hpos : 0 < prg.size := by rw [hsize]; decide
  have htables := hasIdentityTables_taggedPrg 0x10000
  have hspares : script.Forall Action.SparesRegisters :=
    ⟨trivial, ⟨trivial, trivial⟩, trivial, trivial⟩
  have hmode : ran.2.controller.mirroring = some .oneScreenUpper := rfl
  have hshown := (mirroring_refines_history .axRom prg (.ram 0x2000) .horizontal
    (fun _ => Or.inr hdvd) (fun _ => htables) (fun _ => hpos) .done script hspares).2.1 _ hmode
  exact ⟨hdvd, htables, hpos, hspares, hmode, hshown.1⟩

/-- Without PRG memory the data lines read as zero, and the latch takes no other byte: the
controller has selected the upper screen and the cartridge still shows the lower one. -/
theorem axRom_upper_screen_needs_prg :
    let prg : Memory := #[]
    let script : Script Action := .act (.request (.setMirroring .oneScreenUpper)) .done
    let ran := (Script.act (.request .bringUp) script).run Action.perform
      (Session.start .axRom
        (Console.powerOn (Cartridge.ofParts .axRom prg (.ram 0x2000) .horizontal)))
    0x8000 ∣ prg.size ∧ prg.HasIdentityTables ∧ script.Forall Action.SparesRegisters ∧
      ran.2.controller.mirroring = some .oneScreenUpper ∧
        ran.2.bus.cart.mirroring = .oneScreenLower := by
  intro prg script ran
  exact ⟨Nat.dvd_zero _, Memory.hasIdentityTables_empty, ⟨trivial, trivial⟩, rfl, by decide⟩

end NesCartridge
