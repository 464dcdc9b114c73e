/-
  NesCartridge.Diagnostics.Report

  What a run of the diagnostics found: which checks ran, which failed, how many bank selections
  were read back, and a note for every failure and every check that the board cannot do.
-/
import NesCartridge.Diagnostics.Check
import NesCartridge.Registry.Descriptor
import NesCartridge.Text

namespace NesCartridge

/-- A remark in a report. -/
inductive Note where
  | prgBank (window bank : Nat) (got expected : UInt8)
  | chrBank (window bank : Nat) (got expected : UInt8)
  | chrLatch (latch : TileLatch) (base : UInt16) (got expected : UInt8)
  | prgSize (found stated : Nat)
  | wramContents (first last : UInt8)
  | wramDisabled (disabled kept : UInt8)
  | wramProtected (got : UInt8)
  /-- Where the marker written to the first nametable showed up. -/
  | marker (mode : Mirroring) (seen : List Bool)
  | oneScreenOverlap (got : UInt8)
  | irqTiming (period : Nat) (early fired : Bool)
  | irqNotTakenBack
  | irqNotMasked
  | irqPeriodAccepted (period : Nat)
  /-- The controller refused `what`. -/
  | refused (what : String) (error : MapperError)
  /-- The board has no `what`; not a failure. -/
  | skipped (what : String) (error : MapperError)
  deriving DecidableEq

namespace Note

/-- A failed tag comparison. -/
def tagText (what : String) (got expected : UInt8) : String :=
  s!"{what}: read page {got.toNat}, expected {expected.toNat}"

def message : Note → String
  | prgBank window bank got expected => tagText s!"PRG window {window} bank {bank}" got expected
  | chrBank window bank got expected => tagText s!"CHR window {window} bank {bank}" got expected
  | chrLatch latch base got expected =>
    tagText s!"CHR latch {latch.name} at ${Text.addr base}" got expected
  | prgSize found stated =>
    s!"PRG size detected as {Text.kib found} KiB, header says {Text.kib stated} KiB"
  | wramContents first last =>
    s!"WRAM read back ${Text.byte first}/${Text.byte last}, expected $A5/$5A"
  | wramDisabled disabled kept =>
    s!"disabled WRAM read ${Text.byte disabled}, then ${Text.byte kept} after enable"
  | wramProtected got => s!"write-protected WRAM changed to ${Text.byte got}"
  | marker mode seen => s!"{mode.name}: marker seen at {Text.bools seen}"
  | oneScreenOverlap got =>
    s!"one-screen upper wrote over the lower page (read ${Text.byte got})"
  | irqTiming period early fired =>
    s!"IRQ with period {period}: early {early}, at period {fired}"
  | irqNotTakenBack => "IRQ still asserted after acknowledge"
  | irqNotMasked => "masked IRQ asserted"
  | irqPeriodAccepted period => s!"IRQ period {period} was accepted"
  | refused what error => s!"{what}: {error.message} (code {error.code})"
  | skipped what error => s!"{what} skipped: {error.message}"

def isFailure : Note → Bool
  | skipped _ _ => false
  | _ => true

end Note

structure Report where
  board : Board
  failures : CheckSet := {}
  /-- Checks that ran, failed or not. -/
  tested : CheckSet := {}
  /-- PRG bank selections that were read back. -/
  prgBanks : Nat := 0
  /-- CHR bank selections that were read back. -/
  chrBanks : Nat := 0
  /-- PRG size, found by looking for a bank that repeats bank 0. -/
  prgSize : Option Nat := none
  /-- The work RAM was tried. -/
  wram : Bool := false
  notes : Array Note := #[]

namespace Report

def passed (report : Report) : Bool :=
  report.failures.isEmpty

def note (report : Report) (note : Note) : Report :=
  { report with notes := report.notes.push note }

/-- Record the outcome of a check; a failure leaves a note. -/
def check (report : Report) (check : Check) (ok : Bool) (note : Note) : Report :=
  let report := { report with tested := report.tested.insert check }
  if ok then report
  else { report with failures := report.failures.insert check }.note note

/-- Record that the controller refused something a check needs. -/
def refused (report : Report) (check : Check) (what : String) (error : MapperError) : Report :=
  { report with
    tested := report.tested.insert check
    failures := (report.failures.insert check).insert .control }.note (.refused what error)

end Report

end NesCartridge
