/-
  NesCartridge.Diagnostics

  The tests that a cartridge runs on its own board. Everything goes through the controller and is
  read back from the hardware: the first byte of each 8 KiB page of PRG and of each 1 KiB page of
  CHR is its page number, so a read at the base of a window tells which bank is mapped there.
-/
import NesCartridge.Diagnostics.Bench
import NesCartridge.Image

namespace NesCartridge

/-- Tag at the start of a bank of a window, in a memory of `total` bytes with one tag per
`pageSize` bytes. Banks past the end repeat. -/
def pageTag (bank : Nat) (window : Window) (pageSize total : Nat) : UInt8 :=
  UInt8.ofNat (bank * window.size / pageSize % Nat.max (total / pageSize) 1)

/-- Every bank number of a window. -/
def Window.banks (window : Window) : List Nat :=
  List.range (window.maxBank + 1)

theorem Window.le_maxBank_of_mem {window : Window} {bank : Nat} (h : bank ∈ window.banks) :
    bank ≤ window.maxBank :=
  Nat.le_of_lt_succ (List.mem_range.mp h)

namespace Bench

/-! ## PRG -/

/-- Select a bank of a PRG window and compare its tag. -/
def prgBank (window : Window) (number : Nat) (bench : Bench) (bank : Nat) : Progress := do
  let bench ← bench.ask .prgBanks "PRG bank" (.selectPrg number bank)
  let expected := pageTag bank window prgPageSize bench.header.prgRomSize
  let got := bench.read window.base
  let bench := bench.check .prgBanks (got == expected) (.prgBank number bank got expected)
  return bench.onReport fun r => { r with prgBanks := r.prgBanks + 1 }

/-- Try every bank of a PRG window and go back to bank 0. -/
def prgWindow (bench : Bench) (entry : Window × Nat) : Progress := do
  let (window, number) := entry
  let bench ← window.banks.foldlM (prgBank window number) bench
  return finish (bench.ask .prgBanks "PRG bank" (.selectPrg number 0))

/-- Select every bank in every PRG window and read its tag at the window's base. -/
def prgBanks (bench : Bench) : Bench :=
  finish (bench.desc.prgWindows.zipIdx.foldlM prgWindow bench)

/-- The bank numbers 1, 2, 4, … that a window has. -/
def doublings (window : Window) : List Nat :=
  ((List.range 16).map (1 <<< ·)).filter (· ≤ window.maxBank)

/-- Size shown by the first of some banks whose tag is that of bank 0, or everything that the
window can reach. -/
def findRepeat (window : Window) (first : UInt8) : List Nat → Bench → Except Bench (Nat × Bench)
  | [], bench => .ok (window.reach, bench)
  | bank :: rest, bench => do
    let bench ← bench.ask .prgSize "PRG size" (.selectPrg 0 bank)
    if bench.read window.base == first then
      return (bank * window.size, bench)
    else
      findRepeat window first rest bench

/-- Find the PRG size by selecting banks 1, 2, 4, … until one repeats bank 0. A window larger
than the memory sees it repeated inside the window. -/
def prgSize (bench : Bench) : Bench :=
  match bench.desc.prgWindows with
  | [] => bench
  | window :: _ => finish do
    let bench ← bench.ask .prgSize "PRG size" (.selectPrg 0 0)
    let (size, bench) ← findRepeat window (bench.read window.base) (doublings window) bench
    let bench ← bench.ask .prgSize "PRG size" (.selectPrg 0 0)
    let bench := bench.onReport fun r => { r with prgSize := some size }
    let stated := bench.header.prgRomSize
    return bench.check .prgSize (size = Nat.max stated window.size) (.prgSize size stated)

/-! ## CHR -/

/-- Size of the pattern memory as far as the header states it. -/
def chrTotal (bench : Bench) : Nat :=
  Nat.max bench.header.chrRomSize bench.header.chrRamSize

/-- Select a bank of a CHR window and store its tag. -/
def tagChrBank (window : Window) (number : Nat) (bench : Bench) (bank : Nat) : Progress := do
  let bench ← bench.ask .chrBanks "CHR bank" (.selectChr number bank)
  return bench.writePpu window.base (pageTag bank window chrPageSize bench.chrTotal)

/-- Select a bank of a CHR window and compare its tag. -/
def chrBank (window : Window) (number : Nat) (bench : Bench) (bank : Nat) : Progress := do
  let bench ← bench.ask .chrBanks "CHR bank" (.selectChr number bank)
  let expected := pageTag bank window chrPageSize bench.chrTotal
  let (got, bench) := bench.readPpu window.base
  let bench := bench.check .chrBanks (got == expected) (.chrBank number bank got expected)
  return bench.onReport fun r => { r with chrBanks := r.chrBanks + 1 }

/-- Try every bank of a CHR window and go back to bank 0. RAM gets its tags first. -/
def chrWindow (bench : Bench) (entry : Window × Nat) : Progress := do
  let (window, number) := entry
  let bench ←
    if bench.header.chrRomSize = 0 then window.banks.foldlM (tagChrBank window number) bench
    else pure bench
  let bench ← window.banks.foldlM (chrBank window number) bench
  return finish (bench.ask .chrBanks "CHR bank" (.selectChr number 0))

/-- Select every bank in every CHR window without a latch and read its tag at the window's
base. -/
def chrBanks (bench : Bench) : Bench :=
  finish ((bench.desc.chrWindows.zipIdx.filter (·.1.latch.isNone)).foldlM chrWindow bench)

/-- Bank that the latch check puts into a window; windows of one half get different ones. -/
def latchBank (window : Window) (number : Nat) : Nat :=
  (number * 3 + 1) % (window.maxBank + 1)

/-- Address whose fetch sets the latch of a half of pattern memory. -/
def latchTrigger (base : UInt16) : TileLatch → UInt16
  | .fd => if base.toNat < 0x1000 then 0x0FD8 else 0x1FD8
  | .fe => if base.toNat < 0x1000 then 0x0FE8 else 0x1FE8

/-- Put the check's bank into a window. -/
def prepareLatch (bench : Bench) (entry : Window × Nat) : Progress :=
  bench.ask .chrLatches "CHR latch" (.selectChr entry.2 (latchBank entry.1 entry.2))

/-- Set the latch that a window waits for and compare its tag. The fetch that sets the latch
still sees the old bank. -/
def chrLatch (bench : Bench) (entry : Window × Nat) : Bench :=
  let (window, number) := entry
  match window.latch with
  | none => bench
  | some latch =>
    -- What the trigger fetch itself reads does not matter.
    let (_, bench) := bench.readPpu (latchTrigger window.base latch)
    let expected := pageTag (latchBank window number) window chrPageSize bench.chrTotal
    let (got, bench) := bench.readPpu window.base
    let bench :=
      bench.check .chrLatches (got == expected) (.chrLatch latch window.base got expected)
    bench.onReport fun r => { r with chrBanks := r.chrBanks + 1 }

/-- A window with a latch must show its bank while the latch is in the window's state. -/
def chrLatches (bench : Bench) : Bench :=
  let windows := bench.desc.chrWindows.zipIdx
  finish do
    let bench ← windows.foldlM prepareLatch bench
    return windows.foldl chrLatch bench

/-! ## Work RAM -/

/-- While disabled, the work RAM must neither answer nor change. -/
def wramDisable (bench : Bench) : Progress :=
  match bench.request (.setWram .disabled) with
  | (.error err, bench) => .ok (bench.onReport (·.note (.skipped "WRAM disable" err)))
  | (.ok (), bench) => do
    let bench := bench.write Address.wramStart 0xC3
    let disabled := bench.read Address.wramStart
    let bench ← bench.ask .wram "WRAM re-enable" (.setWram .readWrite)
    let kept := bench.read Address.wramStart
    return bench.check .wramDisable (disabled == openBus Address.wramStart && kept == 0xA5)
      (.wramDisabled disabled kept)

/-- While protected, the work RAM must not change. -/
def wramProtect (bench : Bench) : Progress :=
  match bench.request (.setWram .readOnly) with
  | (.error err, bench) => .ok (bench.onReport (·.note (.skipped "WRAM protect" err)))
  | (.ok (), bench) => do
    let bench := bench.write Address.wramStart 0x11
    let got := bench.read Address.wramStart
    let bench ← bench.ask .wram "WRAM re-enable" (.setWram .readWrite)
    return bench.check .wramProtect (got == 0xA5) (.wramProtected got)

/-- Store to both ends of the work RAM, then disable and protect it where the board can. -/
def wram (bench : Bench) : Bench := finish do
  let bench := bench.onReport fun r => { r with wram := true }
  let bench ← bench.ask .wram "WRAM enable" (.setWram .readWrite)
  let bench := (bench.write Address.wramStart 0xA5).write Address.wramEnd 0x5A
  let first := bench.read Address.wramStart
  let last := bench.read Address.wramEnd
  let bench := bench.check .wram (first == 0xA5 && last == 0x5A) (.wramContents first last)
  let bench ← bench.wramDisable
  bench.wramProtect

/-! ## Mirroring -/

/-- The four nametables. -/
def nametableBases : List UInt16 := [0x2000, 0x2400, 0x2800, 0x2C00]

/-- Which nametables show what is written to the first. -/
def aliases : Mirroring → List Bool
  | .vertical => [true, false, true, false]
  | .horizontal => [true, true, false, false]
  | .fourScreen => [true, false, false, false]
  | .oneScreenLower | .oneScreenUpper => [true, true, true, true]

/-- Which of some nametables show a marker. -/
def seenAt (marker : UInt8) : List UInt16 → Bench → List Bool × Bench
  | [], bench => ([], bench)
  | base :: rest, bench =>
    let (got, bench) := bench.readPpu base
    let (seen, bench) := seenAt marker rest bench
    ((got == marker) :: seen, bench)

/-- Select a mode, write a marker to the first nametable and see where it shows up. -/
def mirroringMode (bench : Bench) (entry : Mirroring × Nat) : Bench :=
  let (mode, number) := entry
  match bench.request (.setMirroring mode) with
  | (.error err, bench) => bench.onReport (·.refused .mirroring "mirroring" err)
  | (.ok (), bench) =>
    let bench := nametableBases.reverse.foldl (fun bench base => bench.writePpu base 0) bench
    -- A marker of its own for every mode, never zero.
    let marker := 0x80 ||| UInt8.ofNat number
    let bench := bench.writePpu 0x2000 marker
    let (seen, bench) := seenAt marker nametableBases bench
    bench.check .mirroring (seen == aliases mode) (.marker mode seen)

/-- The two one-screen modes must use different memory. -/
def oneScreenPages (bench : Bench) : Progress := do
  let select (bench : Bench) (mode : Mirroring) :=
    bench.ask .mirroring "mirroring" (.setMirroring mode)
  let bench ← select bench .oneScreenLower
  let bench ← select (bench.writePpu 0x2000 0xAA) .oneScreenUpper
  let bench ← select (bench.writePpu 0x2000 0x55) .oneScreenLower
  let (got, bench) := bench.readPpu 0x2000
  return bench.check .mirroring (got == 0xAA) (.oneScreenOverlap got)

/-- Try every mode that the board can select. -/
def mirroring (bench : Bench) : Bench :=
  let modes := bench.desc.mirroring.modes
  let bench := modes.zipIdx.foldl mirroringMode bench
  if modes.contains .oneScreenLower && modes.contains .oneScreenUpper then
    finish bench.oneScreenPages
  else bench

/-! ## IRQ -/

/-- Period that the IRQ check arms the counter with. -/
def irqPeriod : IrqKind → Nat
  | .none => 0
  | .scanline => 8
  | .cpuCycle => 100

/-- Let scanlines or CPU cycles pass, whichever the counter counts. -/
def advance (bench : Bench) (kind : IrqKind) (count : Nat) : Bench :=
  bench.onConsole fun console =>
    match kind with
    | .scanline => count.repeat Console.scanline console
    | _ => console.tick count

/-- A request was refused for the given reason. -/
def refusedAs (reason : MapperError) : Except MapperError Unit → Bool
  | .ok () => false
  | .error err => err = reason

/-- The IRQ must come after exactly its period and not before, go away when it is acknowledged,
and stay away while it is masked; a period that does not fit must be refused. -/
def irqChecks (kind : IrqKind) (bench : Bench) : Progress := do
  let period := irqPeriod kind
  let bench ← bench.ask .irq "IRQ" (.configureIrq period true)
  let bench := bench.advance kind (period - 1)
  let early := bench.irqLine
  let bench := bench.advance kind 1
  let fired := bench.irqLine
  let bench := bench.check .irq (!early && fired) (.irqTiming period early fired)
  let bench ← bench.ask .irq "IRQ acknowledge" .acknowledgeIrq
  let bench := bench.check .irq (!bench.irqLine) .irqNotTakenBack
  let bench ← bench.ask .irq "IRQ" (.configureIrq period false)
  let bench := bench.advance kind (period * 2)
  let bench := bench.check .irq (!bench.irqLine) .irqNotMasked
  let tooLong := kind.maxPeriod + 1
  let (outcome, bench) := bench.request (.configureIrq tooLong true)
  return bench.check .irq (refusedAs (.invalidIrqPeriod tooLong) outcome)
    (.irqPeriodAccepted tooLong)

/-- Check the IRQ counter, on boards that have one. -/
def irq (bench : Bench) : Bench :=
  match bench.desc.irq with
  | .none => bench
  | kind => finish (irqChecks kind bench)

end Bench

/-! ## Whole runs -/

/-- The routines that a run is made of. -/
inductive Routine where
  | prgBanks
  | prgSize
  | chrBanks
  | chrLatches
  | wram
  | mirroring
  | irq
  deriving DecidableEq

namespace Routine

def perform : Routine → Bench → Bench
  | prgBanks => Bench.prgBanks
  | prgSize => Bench.prgSize
  | chrBanks => Bench.chrBanks
  | chrLatches => Bench.chrLatches
  | wram => Bench.wram
  | mirroring => Bench.mirroring
  | irq => Bench.irq

/-- A board takes the routines for the features it has. -/
def applies (desc : Descriptor) : Routine → Bool
  | prgBanks | prgSize | chrBanks => true
  | chrLatches => desc.hasTileLatches
  | wram => desc.hasWram
  | mirroring => desc.mirroring.hasChoice
  | irq => desc.supportsIrq

/-- The routines of a whole run, in order. -/
def plan (desc : Descriptor) : List Routine :=
  [prgBanks, prgSize, chrBanks, chrLatches, wram, mirroring, irq].filter (applies desc)

end Routine

namespace Bench

/-- Perform routines in turn. -/
def performAll (routines : List Routine) (bench : Bench) : Bench :=
  routines.foldl (fun bench routine => routine.perform bench) bench

/-- Bring the board up, run all its diagnostics, and leave it as bringing it up does. -/
def run (session : Session Console) : Bench :=
  let bench := ((start session).request .bringUp).2
  let bench := bench.performAll (Routine.plan bench.desc)
  (bench.request .bringUp).2

end Bench

end NesCartridge
