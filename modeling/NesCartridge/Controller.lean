/-
  NesCartridge.Controller

  One set of requests for every board. The controller knows which board it drives and what it
  selected there; a request is either refused, with nothing done, or answered by register writes
  and a new shadow.
-/
import NesCartridge.Controller.Protocol

namespace NesCartridge

/-- A bank number must fit the register. -/
def Window.checkBank (window : Window) (bank : Nat) : Except MapperError Unit :=
  if window.maxBank < bank then .error (.bankOutOfRange bank window.maxBank) else .ok ()

/-- The capability that is missing when a work RAM mode cannot be set. -/
def WramControl.missing? : WramControl → WramMode → Option Feature
  | .none, _ => some .wram
  | .fixed, .disabled => some .wram
  | .fixed, .readOnly | .mmc1, .readOnly | .fme7, .readOnly => some .wramProtect
  | _, _ => Option.none

/-- An IRQ period must fit the counter. -/
def checkPeriod (limit period : Nat) : Except MapperError Unit :=
  if period = 0 ∨ limit < period then .error (.invalidIrqPeriod period) else .ok ()

/-- The board has a register for the mirroring, or a bit in its latch. -/
def Board.storesMirroring (board : Board) : Bool :=
  match board with
  | .mmc1 | .mmc3 | .mmc2 | .mmc4 | .fme7 | .action53 => true
  | _ => board.descriptor.latch.any (·.screen.isPresent)

/-- The effect of a request on a board that has been brought up. -/
def Board.respond (board : Board) (shadow : Shadow) :
    Request → Except MapperError (Shadow × List RegisterWrite)
  | .bringUp => .ok (.atBringUp board, board.bringUpWrites)
  | .selectPrg window bank => do
    (← Descriptor.window board.descriptor.prgWindows window).checkBank bank
    let after := shadow.setPrg window bank
    return (after, board.prgWrites after window)
  | .selectChr window bank => do
    (← Descriptor.window board.descriptor.chrWindows window).checkBank bank
    let after := shadow.setChr window bank
    return (after, board.chrWrites after window)
  | .setMirroring mode =>
    if !board.descriptor.supportsMirroring mode then .error (.unsupportedMode mode)
    -- A mode that the registry lists needs a place where it can be written.
    else if !board.storesMirroring then .error (.unsupportedMode mode)
    else
      let after := { shadow with mirroring := some mode }
      .ok (after, board.mirroringWrites after)
  | .setWram mode =>
    match board.descriptor.wram.missing? mode with
    | some feature => .error (.notSupported feature)
    | none =>
      let after := { shadow with wram := some mode }
      .ok (after, board.wramWrites after)
  | .configureIrq period enabled =>
    match board with
    | .mmc3 => do
      checkPeriod 256 period
      return (shadow, Board.mmc3.armWrites (period - 1) enabled)
    | .fme7 => do
      checkPeriod 65536 period
      return (shadow, Board.fme7.armWrites (period - 1) enabled)
    | _ => .error (.notSupported .irq)
  | .acknowledgeIrq =>
    match board with
    | .mmc3 | .fme7 => .ok (shadow, board.acknowledgeWrites)
    | _ => .error (.notSupported .irq)

structure Controller where
  board : Board
  /-- Byte last written to the select register. -/
  select : UInt8 := 0
  /-- `none` until the board has been brought up. -/
  shadow : Option Shadow := none
  deriving DecidableEq

namespace Controller

/-- Byte in the select register after some writes. -/
def selectAfter (ctl : Controller) (writes : List RegisterWrite) : UInt8 :=
  writes.foldl (fun select w => if ctl.board.selectAddr? = some w.addr then w.data else select)
    ctl.select

/-- Refuse a request, or give the controller afterwards and the writes to make. -/
def perform (ctl : Controller) (request : Request) :
    Except MapperError (Controller × List RegisterWrite) :=
  let outcome :=
    -- Before the board has been brought up, nothing else is looked at.
    match ctl.shadow, request with
    | some shadow, request => ctl.board.respond shadow request
    | none, .bringUp => .ok (.atBringUp ctl.board, ctl.board.bringUpWrites)
    | none, _ => .error .notReady
  outcome.map fun (shadow, writes) =>
    ({ ctl with shadow := some shadow, select := ctl.selectAfter writes }, writes)

/-- Write a byte back into the select register, on boards that have one. -/
def restoreSelect (ctl : Controller) (saved : UInt8) : Controller × List RegisterWrite :=
  match ctl.board.selectAddr? with
  | some addr => ({ ctl with select := saved }, [⟨addr, saved⟩])
  | none => (ctl, [])

/-! ## Reading the shadow -/

def isReady (ctl : Controller) : Bool :=
  ctl.shadow.isSome

/-- The shadow of a board that has been brought up. -/
def ready (ctl : Controller) : Except MapperError Shadow :=
  match ctl.shadow with
  | some shadow => .ok shadow
  | none => .error .notReady

/-- Bank last selected in a PRG window. -/
def prgBank (ctl : Controller) (window : Nat) : Except MapperError Nat := do
  let shadow ← ctl.ready
  let _ ← Descriptor.window ctl.board.descriptor.prgWindows window
  return shadow.prgBank window

/-- Bank last selected in a CHR window. -/
def chrBank (ctl : Controller) (window : Nat) : Except MapperError Nat := do
  let shadow ← ctl.ready
  let _ ← Descriptor.window ctl.board.descriptor.chrWindows window
  return shadow.chrBank window

def mirroring (ctl : Controller) : Option Mirroring :=
  ctl.shadow.bind (·.mirroring)

def wram (ctl : Controller) : Option WramMode :=
  ctl.shadow.bind (·.wram)

end Controller

end NesCartridge
