/-
  NesCartridge.Proofs.Checked.Runs

  Whole runs with every step checked that can fail. A run may do anything that can be done to a
  controller and a console (`Deed`), interrupted by handlers at any point. Main statement: from the
  start on no such run traps, whatever board is in the console, whatever its header says, however
  long its memories are, and whichever board the controller takes it for (`no_run_traps`).
-/
import NesCartridge.Proofs.Checked.Diagnostics

namespace NesCartridge

open Checked

/-! ## Actions -/

namespace Action

def checkedPerform (action : Action) (session : Session Console) :
    Checked (History × Session Console) := do
  match action with
  | request req =>
    let (outcome, after) ← session.checkedRequest req
    return ([⟨req, outcome⟩], after)
  | readCpu addr =>
    let _ ← session.bus.checkedReadCpu addr
    return ([], session)
  | writeCpu addr data =>
    return ([], { session with bus := ← session.bus.checkedWriteCpu addr data })
  | readPpu addr => return ([], { session with bus := (← session.bus.checkedReadPpu addr).2 })
  | writePpu addr data =>
    return ([], { session with bus := ← session.bus.checkedWritePpu addr data })
  | tick cycles => return ([], { session with bus := session.bus.tick cycles })

theorem followed (action : Action) {session : Session Console} (h : session.Sound) :
    action.checkedPerform session = .ok (action.perform session) ∧
      (action.perform session).2.Sound := by
  cases action with
  | request req =>
    obtain ⟨hrequest, hsound⟩ := h.request req
    exact ⟨by rw [checkedPerform, hrequest]; rfl, hsound⟩
  | readCpu addr => exact ⟨by rw [checkedPerform, h.console.checkedReadCpu_eq]; rfl, h⟩
  | writeCpu addr data =>
    refine ⟨?_, h.onConsole (h.console.writeCpu addr data)⟩
    rw [checkedPerform, h.console.checkedWriteCpu_eq]
    rfl
  | readPpu addr =>
    refine ⟨?_, h.onConsole (h.console.readPpu addr)⟩
    rw [checkedPerform, h.console.checkedReadPpu_eq]
    rfl
  | writePpu addr data =>
    refine ⟨?_, h.onConsole (h.console.writePpu addr data)⟩
    rw [checkedPerform, h.console.checkedWritePpu_eq]
    rfl
  | tick cycles => exact ⟨rfl, h.onConsole (h.console.tick cycles)⟩

end Action

/-! ## Deeds -/

/-- Anything that can be done to a controller and its console: requests and accesses, look-ups of
banks, accesses to the cartridge past the console, and diagnostics. -/
inductive Deed where
  | act (action : Action)
  | lookUpPrg (window : Nat)
  | lookUpChr (window : Nat)
  | readCart (addr : UInt16)
  | writeCart (addr : UInt16) (data : UInt8)
  | fetchCart (addr : UInt16)
  | clockCart
  /-- One diagnostic routine, which goes on with a report. -/
  | routine (which : Routine) (report : Report)
  | diagnose

namespace Deed

/-- The cartridge takes the place of the one in the console. -/
def withCart (session : Session Console) (cart : Cartridge) : Session Console :=
  { session with bus := { session.bus with cart } }

def perform (deed : Deed) (session : Session Console) : History × Session Console :=
  match deed with
  | act action => action.perform session
  | lookUpPrg _ | lookUpChr _ | readCart _ => ([], session)
  | writeCart addr data => ([], withCart session (session.bus.cart.write addr data))
  | fetchCart addr => ([], withCart session (session.bus.cart.fetched addr))
  | clockCart => ([], withCart session session.bus.cart.clock)
  | routine which report => ([], (which.perform { session, report }).session)
  | diagnose => ([], (Bench.run session).session)

def checkedPerform (deed : Deed) (session : Session Console) :
    Checked (History × Session Console) := do
  match deed with
  | act action => action.checkedPerform session
  | lookUpPrg window =>
    let _ ← (session.controller.checkedPrgBank window).run
    return ([], session)
  | lookUpChr window =>
    let _ ← (session.controller.checkedChrBank window).run
    return ([], session)
  | readCart addr =>
    let _ ← session.bus.cart.checkedRead addr
    return ([], session)
  | writeCart addr data =>
    return ([], withCart session (← session.bus.cart.checkedWrite addr data))
  | fetchCart addr => return ([], withCart session (← session.bus.cart.checkedFetched addr))
  | clockCart => return ([], withCart session session.bus.cart.clock)
  | routine which report =>
    return ([], (← which.checkedPerform { session, report }).session)
  | diagnose => return ([], (← Bench.checkedRun session).session)

theorem sound_withCart {session : Session Console} {cart : Cartridge} (h : session.Sound)
    (hcart : cart.hardware.Sound) : (withCart session cart).Sound :=
  h.onConsole hcart

theorem followed (deed : Deed) {session : Session Console} (h : session.Sound) :
    deed.checkedPerform session = .ok (deed.perform session) ∧ (deed.perform session).2.Sound := by
  have hcart : session.bus.cart.hardware.Sound := h.console
  cases deed with
  | act action => exact action.followed h
  | lookUpPrg window => exact ⟨by rw [checkedPerform, h.controller.checkedPrgBank_eq]; rfl, h⟩
  | lookUpChr window => exact ⟨by rw [checkedPerform, h.controller.checkedChrBank_eq]; rfl, h⟩
  | readCart addr =>
    exact ⟨by rw [checkedPerform, Cartridge.checkedRead, hcart.checkedRead_eq]; rfl, h⟩
  | writeCart addr data =>
    refine ⟨?_, sound_withCart h (hcart.write addr data)⟩
    rw [checkedPerform, Cartridge.checkedWrite, hcart.checkedWrite_eq]
    rfl
  | fetchCart addr =>
    refine ⟨?_, sound_withCart h (hcart.fetched addr)⟩
    rw [checkedPerform, Cartridge.checkedFetched, Hardware.Sound.checkedFetched_eq]
    rfl
  | clockCart => exact ⟨rfl, sound_withCart h hcart.clock⟩
  | routine which report =>
    have hbench : Bench.Sound { session, report } := h
    obtain ⟨hroutine, hsound⟩ := which.followed hbench
    exact ⟨by rw [checkedPerform, hroutine]; rfl, hsound⟩
  | diagnose =>
    obtain ⟨hrun, hsound⟩ := Bench.run_followed h
    exact ⟨by rw [checkedPerform, hrun]; rfl, hsound⟩

end Deed

/-! ## Runs -/

namespace Script

def checkedRun {α : Type}
    (checkedPerform : α → Session Console → Checked (History × Session Console)) :
    Script α → Session Console → Checked (History × Session Console)
  | done, session => return ([], session)
  | act action rest, session => do
    let (now, session) ← checkedPerform action session
    let (later, session) ← rest.checkedRun checkedPerform session
    return (now ++ later, session)
  | handler body rest, session => do
    let (inside, after) ← body.checkedRun checkedPerform session
    let session ← after.checkedRestore session.controller.select
    let (later, session) ← rest.checkedRun checkedPerform session
    return (inside ++ later, session)

/-- Each deed starts from a sound session and leaves one, and so does the end of a handler. -/
theorem run_followed (script : Script Deed) {session : Session Console} (h : session.Sound) :
    script.checkedRun Deed.checkedPerform session = .ok (script.run Deed.perform session) ∧
      (script.run Deed.perform session).2.Sound := by
  induction script generalizing session with
  | done => exact ⟨rfl, h⟩
  | act deed rest ih =>
    obtain ⟨hdeed, hnow⟩ := deed.followed h
    obtain ⟨hrest, hlater⟩ := ih hnow
    rw [run_act]
    refine ⟨?_, hlater⟩
    rw [checkedRun, hdeed, ok_bind]
    dsimp only
    rw [hrest]
    rfl
  | handler body rest ihbody ihrest =>
    -- The byte given back at the end is the one that the body started from.
    obtain ⟨hbody, hinside⟩ := ihbody h
    obtain ⟨hrestore, hback⟩ := hinside.restore session.controller.select
    obtain ⟨hrest, hlater⟩ := ihrest hback
    rw [run_handler]
    refine ⟨?_, hlater⟩
    rw [checkedRun, hbody, ok_bind]
    dsimp only
    rw [hrestore, ok_bind, hrest]
    rfl

end Script

/-- A cartridge of any board with memories of any length, in a console with a controller of any
board: no run traps, and each does what the plain run does. -/
theorem no_run_traps (board driven : Board) (header : Header) {prg : Memory} {chr : Chr}
    (solder : Mirroring) (hprg : prg.size < sizeLimit) (hchr : chr.cells.size < sizeLimit)
    (script : Script Deed) :
    let cart : Cartridge := { header, board, hardware := .powerOn board prg chr solder }
    let start := Session.start driven (.powerOn cart)
    script.checkedRun Deed.checkedPerform start = .ok (script.run Deed.perform start) := by
  intro cart start
  have hcart : cart.hardware.Sound := .powerOn board solder hprg hchr
  have hstart : start.Sound := .start driven (.powerOn hcart)
  exact (script.run_followed hstart).1

/-- An FME-7 without PRG memory and with an odd number of CHR bytes, taken for an MMC3: accesses at
both ends of the memories, a bank beyond them, and all the diagnostics in a handler. -/
theorem no_run_traps_mismatched :
    let cart : Cartridge :=
      { header := { mapper := 69, prgRomSize := 0, chrRomSize := 0, mirroring := .horizontal }
        board := .fme7
        hardware := .powerOn .fme7 #[] (.ram 5) .horizontal }
    let start := Session.start .mmc3 (.powerOn cart)
    let script : Script Deed :=
      .act (.act (.readCpu 0xFFFF)) (.act (.act (.writePpu 0x1FFF 1))
        (.handler (.act .diagnose .done) (.act (.act (.request (.selectChr 5 255))) .done)))
    script.checkedRun Deed.checkedPerform start = .ok (script.run Deed.perform start) :=
  no_run_traps .fme7 .mmc3 _ .horizontal (by decide) (by decide) _

end NesCartridge
