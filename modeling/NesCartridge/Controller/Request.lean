/-
  NesCartridge.Controller.Request

  What a controller can be asked to do with a board, and the record it keeps of what it was
  asked last: most mapper registers cannot be read back.
-/
import NesCartridge.Registry.Descriptor

namespace NesCartridge

/-- Access to the work RAM. -/
inductive WramMode where
  | disabled
  | readOnly
  | readWrite
  deriving DecidableEq

inductive Request where
  /-- Put the board into a known state: bank 0 in every window, work RAM on, IRQs off, vertical
  or lower one-screen mirroring. -/
  | bringUp
  | selectPrg (window bank : Nat)
  /-- With a tile latch the bank shows once the matching tile has been fetched. -/
  | selectChr (window bank : Nat)
  | setMirroring (mode : Mirroring)
  | setWram (mode : WramMode)
  /-- Load the IRQ counter to fire after `period` scanlines or CPU cycles. Without `enabled` the
  IRQ stays masked; a pending one is taken back either way. -/
  | configureIrq (period : Nat) (enabled : Bool)
  /-- Take back a pending IRQ and keep the counter running. -/
  | acknowledgeIrq
  deriving DecidableEq

/-- What was last selected on a board that has been brought up. -/
structure Shadow where
  /-- Bank of each PRG window. -/
  prg : List Nat
  /-- Bank of each CHR window. -/
  chr : List Nat
  /-- `none` on boards with soldered mirroring. -/
  mirroring : Option Mirroring
  /-- `none` on boards without work RAM. -/
  wram : Option WramMode
  deriving DecidableEq

namespace Shadow

def prgBank (shadow : Shadow) (window : Nat) : Nat := shadow.prg.getD window 0

def chrBank (shadow : Shadow) (window : Nat) : Nat := shadow.chr.getD window 0

def setPrg (shadow : Shadow) (window bank : Nat) : Shadow :=
  { shadow with prg := shadow.prg.set window bank }

def setChr (shadow : Shadow) (window bank : Nat) : Shadow :=
  { shadow with chr := shadow.chr.set window bank }

/-- The state that bringing a board up leaves. -/
def atBringUp (board : Board) : Shadow :=
  let desc := board.descriptor
  { prg := List.replicate desc.prgWindows.length 0
    chr := List.replicate desc.chrWindows.length 0
    mirroring := if desc.mirroring.hasChoice then desc.mirroring.modes.head? else none
    wram := if desc.hasWram then some .readWrite else none }

end Shadow

end NesCartridge
