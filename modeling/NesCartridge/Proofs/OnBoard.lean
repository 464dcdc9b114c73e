/-
  NesCartridge.Proofs.OnBoard

  Whatever is done to a console with a controller on it, the cartridge stays the one that was put
  in: the chip keeps its kind, PRG memory and CHR ROM their bytes, and the controller its board
  (`OnBoard.run`). This holds of raw writes to the mapper registers too, so it says nothing of what
  is selected. Requests are then writes to the chip or nothing at all (`OnBoard.request_cases`).
-/
import NesCartridge.Proofs.ConsoleAccess

namespace NesCartridge

/-! ## The cartridge in the console -/

namespace Console

/-- Header and PRG memory are the same, the work RAM has its length, pattern memory is of the same
kind, and so is the chip. -/
structure SameCart (before after : Console) : Prop where
  header : after.cart.header = before.cart.header
  prg : after.cart.hardware.prg = before.cart.hardware.prg
  wram : after.workRam.size = before.workRam.size
  patterns : before.patterns.SameKind after.patterns
  wired : ∀ {board solder}, before.chip.Wired board solder → after.chip.Wired board solder

theorem sameCart_refl (console : Console) : console.SameCart console :=
  ⟨rfl, rfl, rfl, Chr.sameKind_refl _, id⟩

theorem SameCart.trans {first second third : Console} (h : first.SameCart second)
    (h' : second.SameCart third) : first.SameCart third :=
  ⟨h'.header.trans h.header, h'.prg.trans h.prg, h'.wram.trans h.wram,
    h.patterns.trans h'.patterns, fun hwired => h'.wired (h.wired hwired)⟩

theorem Keeps.sameCart {before after : Console} (h : before.Keeps after)
    (hpatterns : before.patterns.SameKind after.patterns) : before.SameCart after :=
  ⟨h.header, h.prg, h.wram, hpatterns, h.chip.wired⟩

theorem sameCart_writeCpu (console : Console) (addr : UInt16) (data : UInt8) :
    console.SameCart (console.writeCpu addr data) := by
  have hwram := console.size_workRam_writeCpu addr data
  obtain ⟨ram, wram, seen, heq⟩ := console.exists_writeCpu addr data
  rw [heq] at hwram ⊢
  exact ⟨rfl, rfl, hwram, Chr.sameKind_refl _, fun hwired => hwired.write addr seen⟩

theorem sameCart_writeAll (console : Console) (writes : List RegisterWrite) :
    console.SameCart (Bus.writeAll console writes) := by
  induction writes generalizing console with
  | nil => exact console.sameCart_refl
  | cons w rest ih => exact (console.sameCart_writeCpu w.addr w.data).trans (ih _)

theorem sameCart_readPpu (console : Console) (addr : UInt16) :
    console.SameCart (console.readPpu addr).2 := by
  have hpatterns : (console.readPpu addr).2.patterns = console.patterns := console.chr_readPpu addr
  refine (console.keeps_readPpu addr).sameCart ?_
  rw [hpatterns]
  exact Chr.sameKind_refl _

theorem sameCart_writePpu (console : Console) (addr : UInt16) (data : UInt8) :
    console.SameCart (console.writePpu addr data) :=
  (console.keeps_writePpu addr data).sameCart (console.sameKind_writePpu addr data)

theorem sameCart_tick (console : Console) (cycles : Nat) :
    console.SameCart (console.tick cycles) := by
  refine (console.keeps_tick cycles).sameCart ?_
  rw [tick_eq]
  exact Chr.sameKind_refl _

end Console

/-- No run puts another cartridge into the console, raw register writes included. -/
theorem Script.sameCart_run (script : Script Action) (session : Session Console) :
    session.bus.SameCart (script.run Action.perform session).2.bus := by
  refine Script.run_keeps (Q := session.bus.SameCart)
    (fun console addr data h => h.trans (console.sameCart_writeCpu addr data)) ?_
    script.forall_true session.bus.sameCart_refl
  intro action _ hrequest now hnow
  cases action with
  | request req => exact absurd rfl (hrequest req)
  | readCpu addr => exact hnow
  | writeCpu addr data => exact hnow.trans (now.bus.sameCart_writeCpu addr data)
  | readPpu addr => exact hnow.trans (now.bus.sameCart_readPpu addr)
  | writePpu addr data => exact hnow.trans (now.bus.sameCart_writePpu addr data)
  | tick cycles => exact hnow.trans (now.bus.sameCart_tick cycles)

/-! ## What a request does -/

/-- An accepted request moves the shadow and the select byte and makes its writes. On a board
that has not been brought up it was the bring-up. -/
theorem Controller.perform_eq_ok {ctl next : Controller} {req : Request}
    {writes : List RegisterWrite} (h : ctl.perform req = .ok (next, writes)) :
    ∃ current after, ctl.board.Answers current req after writes ∧
      (ctl.shadow = some current ∨ req = .bringUp) ∧
      next = { ctl with shadow := some after, select := ctl.selectAfter writes } := by
  -- Both branches that make writes end in the same map over what the board answered.
  have hmap : ∀ outcome : Except MapperError (Shadow × List RegisterWrite),
      (outcome.map fun (shadow, writes) =>
        ({ ctl with shadow := some shadow, select := ctl.selectAfter writes }, writes)) =
          .ok (next, writes) →
        ∃ after, outcome = .ok (after, writes) ∧
          next = { ctl with shadow := some after, select := ctl.selectAfter writes } := by
    intro outcome hmap
    cases outcome with
    | error error => cases hmap
    | ok result =>
      obtain ⟨after, made⟩ := result
      cases hmap
      exact ⟨after, rfl, rfl⟩
  unfold perform at h
  cases hshadow : ctl.shadow with
  | some shadow =>
    rw [hshadow] at h
    obtain ⟨after, houtcome, hnext⟩ := hmap _ h
    exact ⟨shadow, after, Board.respond_eq_ok_iff.mp houtcome, Or.inl rfl, hnext⟩
  | none =>
    rw [hshadow] at h
    cases req with
    | bringUp =>
      -- A bring-up answers the same from any shadow, the one it leaves included.
      obtain ⟨after, houtcome, hnext⟩ := hmap _ h
      cases houtcome
      exact ⟨.atBringUp ctl.board, _, .bringUp, Or.inr rfl, hnext⟩
    | _ => cases h

/-- The end of a handler moves the select byte alone. -/
theorem Controller.board_restoreSelect (ctl : Controller) (saved : UInt8) :
    (ctl.restoreSelect saved).1.board = ctl.board := by
  rw [restoreSelect]
  split <;> rfl

theorem Controller.shadow_restoreSelect (ctl : Controller) (saved : UInt8) :
    (ctl.restoreSelect saved).1.shadow = ctl.shadow := by
  rw [restoreSelect]
  split <;> rfl

/-- A board that is up does what it answers. -/
theorem Controller.perform_of_answers {ctl : Controller} {current after : Shadow} {req : Request}
    {writes : List RegisterWrite} (hshadow : ctl.shadow = some current)
    (hans : ctl.board.Answers current req after writes) :
    ctl.perform req =
      .ok ({ ctl with shadow := some after, select := ctl.selectAfter writes }, writes) := by
  have hrespond := Board.respond_eq_ok_iff.mpr hans
  unfold perform
  rw [hshadow]
  dsimp only
  rw [hrespond]
  rfl

/-- A board that is up refuses what it has no answer to. -/
theorem Controller.perform_of_refused {ctl : Controller} {current : Shadow} {req : Request}
    {error : MapperError} (hshadow : ctl.shadow = some current)
    (hrefused : ctl.board.respond current req = .error error) :
    ctl.perform req = .error error := by
  unfold perform
  rw [hshadow]
  dsimp only
  rw [hrefused]
  rfl

/-- Bringing the board up is never refused. -/
theorem Controller.exists_perform_bringUp (ctl : Controller) :
    ∃ result, ctl.perform .bringUp = .ok result := by
  unfold perform
  cases ctl.shadow with
  | none => exact ⟨_, rfl⟩
  | some shadow => exact ⟨_, rfl⟩

theorem Session.request_bringUp {β : Type} [Bus β] (session : Session β) :
    (session.request .bringUp).1 = .ok () := by
  obtain ⟨⟨next, writes⟩, hperform⟩ := session.controller.exists_perform_bringUp
  rw [request, hperform]

/-- A board is up once it has been brought up, and nothing undoes that. -/
theorem Session.isReady_request {β : Type} [Bus β] (session : Session β) (req : Request) :
    (session.request req).2.controller.isReady =
      (session.controller.isReady || decide (req = .bringUp)) := by
  cases hperform : session.controller.perform req with
  | ok result =>
    obtain ⟨current, after, -, hcurrent, hnext⟩ := Controller.perform_eq_ok hperform
    have hbefore : (session.controller.isReady || decide (req = .bringUp)) = true := by
      rw [Bool.or_eq_true, decide_eq_true_eq, Controller.isReady]
      exact hcurrent.imp_left fun hshadow => by rw [hshadow]; rfl
    rw [request, hperform, hbefore]
    show result.1.isReady = true
    rw [hnext]
    rfl
  | error error =>
    have hother : req ≠ .bringUp := by
      rintro rfl
      have hok := session.request_bringUp
      rw [request, hperform] at hok
      cases hok
    rw [request, hperform, decide_eq_false hother, Bool.or_false]

theorem Session.isReady_restore {β : Type} [Bus β] (session : Session β) (saved : UInt8) :
    (session.restore saved).controller.isReady = session.controller.isReady :=
  congrArg Option.isSome (session.controller.shadow_restoreSelect saved)

theorem Action.isReady_perform {session : Session Console}
    (h : session.controller.isReady = true) (action : Action) :
    (action.perform session).2.controller.isReady = true := by
  cases action with
  | request req =>
    show (session.request req).2.controller.isReady = true
    rw [Session.isReady_request, h, Bool.true_or]
  | readCpu | writeCpu | readPpu | writePpu | tick => exact h

/-! ## A controller on a board -/

/-- A controller that has done nothing yet, on a cartridge of its board that was just switched
on. -/
def Session.powerOn (board : Board) (header : Header) (prg : Memory) (chr : Chr)
    (solder : Mirroring) : Session Console :=
  .start board (.powerOn { header, board, hardware := .powerOn board prg chr solder })

/-- The controller drives a cartridge of its own board, with the memories that it was built
with. -/
structure OnBoard (board : Board) (prg : Memory) (chr : Chr) (solder : Mirroring)
    (session : Session Console) : Prop where
  board_eq : session.controller.board = board
  prg_eq : session.bus.cart.hardware.prg = prg
  wram_size : session.bus.workRam.size = board.wramSize
  kind : chr.SameKind session.bus.patterns
  wired : session.bus.chip.Wired board solder
  isSelect : board.IsSelect session.controller.select

namespace OnBoard

variable {board : Board} {prg : Memory} {chr : Chr} {solder : Mirroring}
  {session : Session Console}

theorem powerOn (board : Board) (header : Header) (prg : Memory) (chr : Chr) (solder : Mirroring) :
    OnBoard board prg chr solder (Session.powerOn board header prg chr solder) where
  board_eq := rfl
  prg_eq := rfl
  wram_size := Hardware.size_wram_powerOn board prg chr solder
  kind := Chr.sameKind_refl chr
  wired := Chip.wired_powerOn board solder
  isSelect := by
    show (0 : UInt8) &&& board.selectMask = 0
    exact UInt8.zero_and

theorem of_sameCart (h : OnBoard board prg chr solder session) {console : Console}
    (hcart : session.bus.SameCart console) :
    OnBoard board prg chr solder { session with bus := console } where
  board_eq := h.board_eq
  prg_eq := hcart.prg.trans h.prg_eq
  wram_size := hcart.wram.trans h.wram_size
  kind := h.kind.trans hcart.patterns
  wired := hcart.wired h.wired
  isSelect := h.isSelect

theorem request (h : OnBoard board prg chr solder session) (req : Request) :
    OnBoard board prg chr solder (session.request req).2 := by
  rw [Session.request]
  split
  next next writes hperform =>
    obtain ⟨current, after, hans, -, rfl⟩ := Controller.perform_eq_ok hperform
    have hnext := h.of_sameCart (session.bus.sameCart_writeAll writes)
    refine { hnext with isSelect := ?_ }
    -- The select byte is the controller's own note, whatever the bus makes of the writes.
    have hselect := h.isSelect
    rw [← h.board_eq] at hselect ⊢
    exact Controller.isSelect_selectAfter hselect fun w hw => Board.emits_of_answers hans hw
  next error hperform => exact h

theorem restore (h : OnBoard board prg chr solder session) {saved : UInt8}
    (hsaved : board.IsSelect saved) : OnBoard board prg chr solder (session.restore saved) := by
  rw [Session.restore, Controller.restoreSelect]
  cases session.controller.board.selectAddr? with
  | none => exact h
  | some addr =>
    exact { h.of_sameCart (session.bus.sameCart_writeAll [⟨addr, saved⟩]) with isSelect := hsaved }

theorem perform (h : OnBoard board prg chr solder session) (action : Action) :
    OnBoard board prg chr solder (action.perform session).2 := by
  cases action with
  | request req => exact h.request req
  | readCpu addr => exact h
  | writeCpu addr data => exact h.of_sameCart (session.bus.sameCart_writeCpu addr data)
  | readPpu addr => exact h.of_sameCart (session.bus.sameCart_readPpu addr)
  | writePpu addr data => exact h.of_sameCart (session.bus.sameCart_writePpu addr data)
  | tick cycles => exact h.of_sameCart (session.bus.sameCart_tick cycles)

/-- No run changes what cartridge it is, raw register writes included. -/
theorem run (h : OnBoard board prg chr solder session) (script : Script Action) :
    OnBoard board prg chr solder (script.run Action.perform session).2 :=
  Script.run_preserves (fun _ => OnBoard board prg chr solder)
    (fun action _ _ _ hnow => hnow.perform action)
    (fun _ _ _ _ hbefore hafter => hafter.restore hbefore.isSelect) script.forall_true [] session h

/-! ## Requests as writes to the chip -/

/-- An accepted request makes its writes on the chip alone; a refused one does nothing. -/
theorem request_cases (h : OnBoard board prg chr solder session) (hquiet : prg.Quiet board)
    (req : Request) :
    (∃ error, session.request req = (.error error, session)) ∨
      ∃ current after writes, board.Answers current req after writes ∧
        (session.controller.shadow = some current ∨ req = .bringUp) ∧
        session.request req = (.ok (),
          { controller := { session.controller with
              shadow := some after
              select := session.controller.selectAfter writes }
            bus := session.bus.withChip (session.bus.chip.writeAll writes) }) := by
  rw [Session.request]
  split
  next next writes hperform =>
    obtain ⟨current, after, hans, hcurrent, rfl⟩ := Controller.perform_eq_ok hperform
    rw [h.board_eq] at hans
    have hwrites := Console.writeAll_eq h.wired (h.prg_eq ▸ hquiet) fun w hw =>
      Board.emits_of_answers hans hw
    rw [hwrites]
    exact Or.inr ⟨current, after, writes, hans, hcurrent, rfl⟩
  next error hperform => exact Or.inl ⟨error, rfl⟩

/-- What a request means to the chip: nothing, or the writes of an answer. -/
theorem chip_request (h : OnBoard board prg chr solder session) (hquiet : prg.Quiet board)
    (req : Request) :
    (session.request req).2.bus.chip = session.bus.chip ∨
      ∃ current after writes, board.Answers current req after writes ∧
        (session.request req).2.bus.chip = session.bus.chip.writeAll writes := by
  rcases h.request_cases hquiet req with ⟨error, heq⟩ | ⟨current, after, writes, hans, -, heq⟩
  · exact Or.inl (by rw [heq])
  · exact Or.inr ⟨current, after, writes, hans, by rw [heq]; rfl⟩

/-- A board that is up does what it answers, by writes to the chip alone. -/
theorem request_of_answers (h : OnBoard board prg chr solder session) (hquiet : prg.Quiet board)
    {current after : Shadow} {req : Request} {writes : List RegisterWrite}
    (hshadow : session.controller.shadow = some current)
    (hans : board.Answers current req after writes) :
    session.request req = (.ok (),
      { controller := { session.controller with
          shadow := some after
          select := session.controller.selectAfter writes }
        bus := session.bus.withChip (session.bus.chip.writeAll writes) }) := by
  have hperform := Controller.perform_of_answers hshadow (h.board_eq.symm ▸ hans)
  have hwrites := Console.writeAll_eq h.wired (h.prg_eq ▸ hquiet) fun w hw =>
    Board.emits_of_answers hans hw
  rw [Session.request, hperform, ← hwrites]

/-- Giving a select byte back changes the select register and its note and nothing else. -/
theorem restore_eq (h : OnBoard board prg chr solder session) {addr : UInt16}
    (haddr : board.selectAddr? = some addr) {saved : UInt8} (hsaved : board.IsSelect saved) :
    session.restore saved =
      { controller := { session.controller with select := saved }
        bus := session.bus.withChip (session.bus.chip.withSelect saved) } := by
  have hquiet : session.bus.cart.hardware.prg.Quiet board :=
    Memory.quiet_of_no_conflicts (Board.select_mem_addresses haddr).1 _
  have hrestore : session.controller.restoreSelect saved =
      ({ session.controller with select := saved }, [⟨addr, saved⟩]) := by
    have hctl : session.controller.board.selectAddr? = some addr := h.board_eq ▸ haddr
    rw [Controller.restoreSelect, hctl]
  have hwrite := Console.writeAll_eq h.wired hquiet fun w hw => by
    rw [List.mem_singleton.mp hw]
    exact Board.emits_select haddr hsaved
  rw [Chip.writeAll_cons, Chip.writeAll_nil, h.wired.write_selectAddr haddr hsaved] at hwrite
  rw [Session.restore, hrestore, ← hwrite]

theorem restore_eq_self (h : OnBoard board prg chr solder session)
    (hnone : board.selectAddr? = none) (saved : UInt8) : session.restore saved = session := by
  apply Session.restore_eq_self
  rw [h.board_eq]
  exact hnone

/-- To the chip the end of a handler is at most another byte in the select register. -/
theorem chip_restore (h : OnBoard board prg chr solder session) {saved : UInt8}
    (hsaved : board.IsSelect saved) :
    (session.restore saved).bus.chip = session.bus.chip ∨
      (session.restore saved).bus.chip = session.bus.chip.withSelect saved := by
  cases haddr : board.selectAddr? with
  | none => exact Or.inl (by rw [h.restore_eq_self haddr])
  | some addr => exact Or.inr (by rw [h.restore_eq haddr hsaved]; rfl)

end OnBoard

end NesCartridge
