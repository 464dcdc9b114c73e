/-
  NesCartridge.Proofs.HandlerBracket

  Interrupt handlers on boards with a select register. A handler that is a run of requests ends
  with the select register as it found it and with everything else as the requests left it, so the
  data half of an interrupted pair still meets its register (`runHandler_brackets_select`). On the
  other boards the end of a handler adds nothing to it.
-/
import NesCartridge.Proofs.Chip.RegisterFile
import NesCartridge.Proofs.Course
import NesCartridge.Proofs.InStep
import NesCartridge.Proofs.TaggedImage

namespace NesCartridge

/-! ## A run of requests as its writes -/

@[simp] theorem BusLog.writes_writeAll (log : BusLog) (writes : List RegisterWrite) :
    (Bus.writeAll log writes).writes.toList = log.writes.toList ++ writes := by
  induction writes generalizing log with
  | nil => exact (List.append_nil _).symm
  | cons w rest ih =>
    rw [Bus.writeAll_cons, ih]
    show (log.writes.push w).toList ++ rest = _
    rw [Array.toList_push, List.append_assoc]
    rfl

namespace Script

/-- A run that writes nothing to a log writes nothing to any bus. -/
theorem bus_run_of_log {β : Type} [Bus β] (script : Script Request) (session : Session β)
    (h : (script.run Request.perform ⟨session.controller, ({} : BusLog)⟩).2.bus.writes = #[]) :
    (script.run Request.perform session).2.bus = session.bus := by
  rw [script.run_eq_course] at h
  -- The writes depend on the controller alone, so what the log took is what any bus takes.
  have hlog := BusLog.writes_writeAll {} (script.course session.controller).writes
  rw [h] at hlog
  have hnone : (script.course session.controller).writes = [] := hlog.symm
  have hsession := script.run_eq_course session.controller session.bus
  rw [hnone] at hsession
  exact congrArg (fun ran => ran.2.bus) hsession

end Script

/-! ## The select register around a handler -/

namespace Chip

theorem withSelect_eq_self {chip : Chip} {byte : UInt8} (h : chip.select? = some byte) :
    chip.withSelect byte = chip := by
  cases chip with
  | mmc3 | action53 | fme7 =>
    cases h
    rfl
  | nrom | mmc1 | mmc2 | discrete => rfl

end Chip

/-- No request moves a controller to another board. -/
theorem Script.board_run {β : Type} [Bus β] (script : Script Request) (session : Session β) :
    (script.run Request.perform session).2.controller.board = session.controller.board := by
  rw [script.run_eq_course]
  exact script.board_course session.controller

namespace InStep

variable {board : Board} {prg : Memory} {solder : Mirroring} {session : Session Console}

theorem run_requests (h : InStep board prg solder session) (hquiet : prg.Quiet board)
    (script : Script Request) :
    InStep board prg solder (script.run Request.perform session).2 := by
  have hact : ∀ req : Request, True → ∀ (_ : History) session,
      InStep board prg solder session → InStep board prg solder (req.perform session).2 :=
    fun req _ _ session h => h.request hquiet req
  exact Script.run_preserves (fun _ => InStep board prg solder) hact
    (fun _ _ _ _ hbefore hafter => hafter.restore hbefore.isSelect) script.forall_true [] session h

theorem select?_eq_some (h : InStep board prg solder session) {addr : UInt16}
    (haddr : board.selectAddr? = some addr) :
    session.bus.chip.select? = some session.controller.select := by
  rw [h.select?_eq, haddr]
  rfl

/-- A handler is what its requests are, but for the select register and the note of it. -/
theorem runHandler_eq (h : InStep board prg solder session) (hquiet : prg.Quiet board)
    {addr : UInt16} (haddr : board.selectAddr? = some addr) (body : Script Request) :
    let direct := body.run Request.perform session
    let saved := session.controller.select
    session.runHandler (body.run Request.perform) =
      (direct.1,
        { controller := { direct.2.controller with select := saved }
          bus := direct.2.bus.withChip (direct.2.bus.chip.withSelect saved) }) := by
  intro direct saved
  rw [Session.runHandler_eq, (h.run_requests hquiet body).onBoard.restore_eq haddr h.isSelect]

/-- A data write is stored in the register that the controller notes as selected. -/
theorem register_writeCpu (h : InStep board prg solder session) {addr dataAddr : UInt16}
    (haddr : board.selectAddr? = some addr) (hdata : board.dataAddr? = some dataAddr)
    (data : UInt8) :
    let stored := session.bus.writeCpu dataAddr data
    stored = session.bus.withChip stored.chip ∧
      stored.chip.register session.controller.select =
        data &&& board.storedBits session.controller.select ∧
      ∀ other, board.IsSelect other → other ≠ session.controller.select →
        stored.chip.register other &&& board.ownBits other =
          session.bus.chip.register other &&& board.ownBits other := by
  intro stored
  have hquiet : session.bus.cart.hardware.prg.Quiet board :=
    Memory.quiet_of_no_conflicts (Board.dataAddr?_mem hdata).1 _
  have hstored : stored = session.bus.withChip (session.bus.chip.write dataAddr data) :=
    Console.writeCpu_of_emits h.wired hquiet (Board.emits_data hdata data)
  rw [hstored]
  exact ⟨rfl, h.wired.register_write hdata (h.select?_eq_some haddr) h.isSelect data⟩

/-- After a handler a data write is stored in the register that was selected before it. So a pair of
writes is not torn where a handler comes between its halves. -/
theorem register_runHandler (h : InStep board prg solder session) (hquiet : prg.Quiet board)
    {addr dataAddr : UInt16} (haddr : board.selectAddr? = some addr)
    (hdata : board.dataAddr? = some dataAddr) (body : Script Request) (data : UInt8) :
    let saved := session.controller.select
    let ran := session.runHandler (body.run Request.perform)
    let stored := ran.2.bus.writeCpu dataAddr data
    stored = ran.2.bus.withChip stored.chip ∧
      stored.chip.register saved = data &&& board.storedBits saved ∧
      ∀ other, board.IsSelect other → other ≠ saved →
        stored.chip.register other &&& board.ownBits other =
          ran.2.bus.chip.register other &&& board.ownBits other := by
  intro saved ran stored
  have hran : InStep board prg solder ran.2 := (h.run_requests hquiet body).restore h.isSelect
  have hselect : ran.2.controller.select = saved :=
    congrArg (fun ran => ran.2.controller.select) (h.runHandler_eq hquiet haddr body)
  have hstored := hran.register_writeCpu haddr hdata data
  rwa [hselect] at hstored

end InStep

namespace Board

theorem exists_pairAddrs {board : Board} (h : board ∈ [.mmc3, .fme7, .action53]) :
    ∃ addr dataAddr, board.selectAddr? = some addr ∧ board.dataAddr? = some dataAddr := by
  cases board with
  | mmc3 | fme7 | action53 => exact ⟨_, _, rfl, rfl⟩
  | _ => exact absurd h (by decide)

theorem selectAddr?_eq_none {board : Board} (h : board ∉ [.mmc3, .fme7, .action53]) :
    board.selectAddr? = none := by
  cases board with
  | mmc3 | fme7 | action53 => exact absurd (by decide) h
  | _ => rfl

end Board

/-- On the boards with a select register a handler made of requests leaves that register, and the
controller's note of it, as they were before, and all else as its requests alone leave it; a data
write that follows is stored where it would have been stored without the handler. On the other
boards, whatever the bus, a handler is the run of its requests. -/
theorem runHandler_brackets_select (board : Board) (header : Header) (prg : Memory) (chr : Chr)
    (solder : Mirroring) (script body : Script Request) :
    (board ∈ [.mmc3, .fme7, .action53] →
      let before := (script.run Request.perform (Session.start board (Console.powerOn
        { header, board, hardware := .powerOn board prg chr solder }))).2
      let saved := before.controller.select
      let direct := body.run Request.perform before
      let ran := before.runHandler (body.run Request.perform)
      before.bus.chip.select? = some saved ∧
        ran.2.controller.select = saved ∧ ran.2.bus.chip.select? = some saved ∧
        ran.1 = direct.1 ∧
        ran.2.controller = { direct.2.controller with select := saved } ∧
        ran.2.bus = direct.2.bus.withChip (direct.2.bus.chip.withSelect saved) ∧
        (∃ addr, board.dataAddr? = some addr ∧ ∀ data,
          let stored := ran.2.bus.writeCpu addr data
          stored = ran.2.bus.withChip stored.chip ∧
            stored.chip.register saved = data &&& board.storedBits saved ∧
            ∀ other, board.IsSelect other → other ≠ saved →
              stored.chip.register other &&& board.ownBits other =
                ran.2.bus.chip.register other &&& board.ownBits other) ∧
        ((body.run Request.perform ⟨before.controller, ({} : BusLog)⟩).2.bus.writes = #[] →
          ran.2.bus = before.bus)) ∧
      (board ∉ [.mmc3, .fme7, .action53] →
        ∀ {β : Type} [Bus β] (session : Session β), session.controller.board = board →
          session.runHandler (body.run Request.perform) = body.run Request.perform session) := by
  refine ⟨fun hboard => ?_, fun hboard {β} _ session hsession => ?_⟩
  · intro before saved direct ran
    obtain ⟨addr, dataAddr, haddr, hdata⟩ := Board.exists_pairAddrs hboard
    have hquiet : prg.Quiet board := fun hconflicts => by
      rw [(Board.dataAddr?_mem hdata).1] at hconflicts
      cases hconflicts
    have hstart : InStep board prg solder (Session.start board (Console.powerOn
        { header, board, hardware := .powerOn board prg chr solder })) := InStep.start rfl
    have hbefore : InStep board prg solder before := hstart.run_requests hquiet script
    have hdirect : InStep board prg solder direct.2 := hbefore.run_requests hquiet body
    have hrestored := hdirect.restore hbefore.isSelect
    have hafter : ran = (direct.1, _) := hbefore.runHandler_eq hquiet haddr body
    have hselect : (direct.2.restore saved).controller.select = saved :=
      congrArg (fun ran => ran.2.controller.select) hafter
    refine ⟨hbefore.select?_eq_some haddr, hselect, ?_, rfl, ?_, ?_,
      ⟨dataAddr, hdata, hbefore.register_runHandler hquiet haddr hdata body⟩, ?_⟩
    · have hchip := hrestored.select?_eq_some haddr
      rwa [hselect] at hchip
    · exact congrArg (fun ran => ran.2.controller) hafter
    · exact congrArg (fun ran => ran.2.bus) hafter
    · intro hsilent
      have hbus : direct.2.bus = before.bus := body.bus_run_of_log before hsilent
      have hback : ran.2.bus = direct.2.bus.withChip (direct.2.bus.chip.withSelect saved) :=
        congrArg (fun ran => ran.2.bus) hafter
      rw [hback, hbus, Chip.withSelect_eq_self (hbefore.select?_eq_some haddr),
        Console.withChip_chip]
  · have hnone : (body.run Request.perform session).2.controller.board.selectAddr? = none := by
      rw [body.board_run, hsession]
      exact Board.selectAddr?_eq_none hboard
    rw [Session.runHandler_eq, Session.restore_eq_self hnone]

/-- A handler changes a CHR bank between a PRG bank request and a data write, which still goes to
the PRG register; on a board without a select register nothing is written behind a handler. -/
theorem runHandler_brackets_select_mmc3 :
    let script : Script Request := .act .bringUp (.act (.selectPrg 0 5) .done)
    let body : Script Request := .act (.selectChr 2 9) (.handler (.act .acknowledgeIrq .done) .done)
    let before := (script.run Request.perform (Session.start .mmc3 (Console.powerOn
      (Cartridge.ofParts .mmc3 (taggedPrg 0x8000) (.ram 0x2000) .vertical)))).2
    let after := (before.runHandler (body.run Request.perform)).2
    let log : Session BusLog := Session.start .uxRom {}
    before.controller.select = 6 ∧ after.controller.select = 6 ∧
      (∀ data, (after.bus.writeCpu Address.mmc3Data data).chip.register 6 = data &&& 0xFF) ∧
      log.runHandler (body.run Request.perform) = body.run Request.perform log := by
  intro script body before after log
  have hsaved : before.controller.select = 6 := rfl
  obtain ⟨-, hselect, -, -, -, -, ⟨addr, haddr, hstored⟩, -⟩ :=
    (runHandler_brackets_select .mmc3 _ (taggedPrg 0x8000) (.ram 0x2000) .vertical script body).1
      (by decide)
  have hlog := (runHandler_brackets_select .uxRom
    (Cartridge.ofParts .uxRom #[] (.ram 0x2000) .vertical).header #[] (.ram 0x2000) .vertical
    .done body).2 (by decide) log rfl
  cases haddr
  refine ⟨hsaved, hselect.trans hsaved, fun data => ?_, hlog⟩
  have hdata : (after.bus.writeCpu Address.mmc3Data data).chip.register before.controller.select =
      data &&& 0xFF := (hstored data).2.1
  rwa [hsaved] at hdata

end NesCartridge
