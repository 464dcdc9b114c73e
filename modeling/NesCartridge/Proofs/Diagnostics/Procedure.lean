/-
  NesCartridge.Proofs.Diagnostics.Procedure

  The diagnostic routines as trees. A procedure does one thing after another: it asks for what is
  known of the board, makes a request, uses a bus, or enters something in the report, and goes on
  with the answer. Doing what the tree of a routine says is performing the routine
  (`Routine.after_procedure`); the tree also shows what the bench in the end does not, which
  operations were made on the way (`Procedure.operations`) and which reports were passed through
  (`Procedure.reports`).
-/
import NesCartridge.Diagnostics

namespace NesCartridge

/-! ## Operations and entries -/

/-- What a routine does outside its report. -/
inductive Operation where
  /-- The descriptor of the board and the header of the file are known without an access. -/
  | inspect
  | request (req : Request)
  | readCpu (addr : UInt16)
  | writeCpu (addr : UInt16) (data : UInt8)
  | readPpu (addr : UInt16)
  | writePpu (addr : UInt16) (data : UInt8)
  | tick (cycles : Nat)
  | pollIrq

namespace Operation

def Answer : Operation → Type
  | inspect => Descriptor × Header
  | request _ => Except MapperError Unit
  | readCpu _ | readPpu _ => UInt8
  | writeCpu _ _ | writePpu _ _ | tick _ => Unit
  | pollIrq => Bool

def perform (session : Session Console) : (op : Operation) → op.Answer × Session Console
  | inspect => ((session.controller.board.descriptor, session.bus.cart.header), session)
  | request req => session.request req
  | readCpu addr => (session.bus.readCpu addr, session)
  | writeCpu addr data => ((), { session with bus := session.bus.writeCpu addr data })
  | readPpu addr =>
    let (data, bus) := session.bus.readPpu addr
    (data, { session with bus })
  | writePpu addr data => ((), { session with bus := session.bus.writePpu addr data })
  | tick cycles => ((), { session with bus := session.bus.tick cycles })
  | pollIrq => (session.bus.cart.irq, session)

/-- The operation gets to the CPU or the PPU bus. Requests do by the writes that answer them, so
only those that are accepted. -/
def UsesBus (session : Session Console) : Operation → Prop
  | inspect => False
  | request req => ∃ granted, session.controller.perform req = .ok granted
  | _ => True

end Operation

/-- Make an operation; the report stays as it is. -/
def Bench.operate (bench : Bench) (op : Operation) : op.Answer × Bench :=
  ((op.perform bench.session).1, { bench with session := (op.perform bench.session).2 })

/-- What a routine puts down in its report. -/
inductive Entry where
  | check (of : Check) (ok : Bool) (note : Note)
  | refused (of : Check) (what : String) (error : MapperError)
  | skipped (what : String) (error : MapperError)
  | prgBankRead
  | chrBankRead
  | foundPrgSize (size : Nat)
  | triedWram

def Entry.make (report : Report) : Entry → Report
  | check of ok note => report.check of ok note
  | refused of what error => report.refused of what error
  | skipped what error => report.note (.skipped what error)
  | prgBankRead => { report with prgBanks := report.prgBanks + 1 }
  | chrBankRead => { report with chrBanks := report.chrBanks + 1 }
  | foundPrgSize size => { report with prgSize := some size }
  | triedWram => { report with wram := true }

/-! ## Procedures -/

/-- Operations and entries in turn, each depending on the answers before. -/
inductive Procedure (α : Type) where
  | done (value : α)
  /-- What is needed was refused. -/
  | stop
  | operate (op : Operation) (next : op.Answer → Procedure α)
  | enter (entry : Entry) (next : Procedure α)

namespace Procedure

variable {α β : Type}

def bind (procedure : Procedure α) (next : α → Procedure β) : Procedure β :=
  match procedure with
  | done value => next value
  | stop => stop
  | operate op rest => operate op fun answer => (rest answer).bind next
  | enter entry rest => enter entry (rest.bind next)

instance : Monad Procedure where
  pure := done
  bind := bind

/-- Follow the procedure on a bench, up to its value or to where it stops. -/
def exec : Procedure α → Bench → Except Bench (α × Bench)
  | done value, bench => .ok (value, bench)
  | stop, bench => .error bench
  | operate op next, bench => (next (bench.operate op).1).exec (bench.operate op).2
  | enter entry next, bench => next.exec (bench.onReport entry.make)

/-- The bench that the procedure leaves, stopped or not. -/
def after : Procedure α → Bench → Bench
  | done _, bench | stop, bench => bench
  | operate op next, bench => (next (bench.operate op).1).after (bench.operate op).2
  | enter entry next, bench => next.after (bench.onReport entry.make)

/-- Every operation with the session that it meets, in order. -/
def operations : Procedure α → Session Console → List (Session Console × Operation)
  | done _, _ | stop, _ => []
  | operate op next, session =>
    (session, op) :: (next (op.perform session).1).operations (op.perform session).2
  | enter _ next, session => next.operations session

/-- Every report that the procedure passes through, from the one that it is given to the one that
it leaves. -/
def reports : Procedure α → Bench → List Report
  | done _, bench | stop, bench => [bench.report]
  | operate op next, bench =>
    bench.report :: (next (bench.operate op).1).reports (bench.operate op).2
  | enter entry next, bench => bench.report :: next.reports (bench.onReport entry.make)

theorem exec_bind (procedure : Procedure α) (next : α → Procedure β) (bench : Bench) :
    (procedure >>= next).exec bench =
      procedure.exec bench >>= fun out => (next out.1).exec out.2 := by
  induction procedure generalizing bench with
  | done | stop => rfl
  | operate op rest ih => exact ih _ _
  | enter entry rest ih => exact ih _

/-! ## Steps -/

def known : Procedure (Descriptor × Header) :=
  operate .inspect done

def request (req : Request) : Procedure (Except MapperError Unit) :=
  operate (.request req) done

def readCpu (addr : UInt16) : Procedure UInt8 :=
  operate (.readCpu addr) done

def writeCpu (addr : UInt16) (data : UInt8) : Procedure Unit :=
  operate (.writeCpu addr data) done

def readPpu (addr : UInt16) : Procedure UInt8 :=
  operate (.readPpu addr) done

def writePpu (addr : UInt16) (data : UInt8) : Procedure Unit :=
  operate (.writePpu addr data) done

def tick (cycles : Nat) : Procedure Unit :=
  operate (.tick cycles) done

def irqLine : Procedure Bool :=
  operate .pollIrq done

def record (entry : Entry) : Procedure Unit :=
  enter entry (done ())

/-- Make a request; a refusal is recorded. -/
def attempt (check : Check) (what : String) (req : Request) : Procedure Unit := do
  match ← request req with
  | .ok () => return ()
  | .error err => record (.refused check what err)

/-- Make a request that is needed: a refusal ends the procedure. -/
def ask (check : Check) (what : String) (req : Request) : Procedure Unit := do
  match ← request req with
  | .ok () => return ()
  | .error err =>
    record (.refused check what err)
    stop

/-! ## The routines -/

def prgBank (window : Window) (number bank : Nat) : Procedure Unit := do
  ask .prgBanks "PRG bank" (.selectPrg number bank)
  let expected := pageTag bank window prgPageSize (← known).2.prgRomSize
  let got ← readCpu window.base
  record (.check .prgBanks (got == expected) (.prgBank number bank got expected))
  record .prgBankRead

def prgWindow (entry : Window × Nat) : Procedure Unit := do
  let (window, number) := entry
  window.banks.forM (prgBank window number)
  attempt .prgBanks "PRG bank" (.selectPrg number 0)

def prgBanks : Procedure Unit := do
  (← known).1.prgWindows.zipIdx.forM prgWindow

def findRepeat (window : Window) (first : UInt8) : List Nat → Procedure Nat
  | [] => return window.reach
  | bank :: rest => do
    ask .prgSize "PRG size" (.selectPrg 0 bank)
    if (← readCpu window.base) == first then
      return bank * window.size
    else
      findRepeat window first rest

def prgSize : Procedure Unit := do
  match (← known).1.prgWindows with
  | [] => return ()
  | window :: _ =>
    ask .prgSize "PRG size" (.selectPrg 0 0)
    let size ← findRepeat window (← readCpu window.base) (Bench.doublings window)
    ask .prgSize "PRG size" (.selectPrg 0 0)
    record (.foundPrgSize size)
    let stated := (← known).2.prgRomSize
    record (.check .prgSize (size = Nat.max stated window.size) (.prgSize size stated))

def chrTotal : Procedure Nat := do
  let header := (← known).2
  return Nat.max header.chrRomSize header.chrRamSize

def tagChrBank (window : Window) (number bank : Nat) : Procedure Unit := do
  ask .chrBanks "CHR bank" (.selectChr number bank)
  writePpu window.base (pageTag bank window chrPageSize (← chrTotal))

def chrBank (window : Window) (number bank : Nat) : Procedure Unit := do
  ask .chrBanks "CHR bank" (.selectChr number bank)
  let expected := pageTag bank window chrPageSize (← chrTotal)
  let got ← readPpu window.base
  record (.check .chrBanks (got == expected) (.chrBank number bank got expected))
  record .chrBankRead

def chrWindow (entry : Window × Nat) : Procedure Unit := do
  let (window, number) := entry
  if (← known).2.chrRomSize = 0 then
    window.banks.forM (tagChrBank window number)
  window.banks.forM (chrBank window number)
  attempt .chrBanks "CHR bank" (.selectChr number 0)

def chrBanks : Procedure Unit := do
  ((← known).1.chrWindows.zipIdx.filter (·.1.latch.isNone)).forM chrWindow

def prepareLatch (entry : Window × Nat) : Procedure Unit :=
  ask .chrLatches "CHR latch" (.selectChr entry.2 (Bench.latchBank entry.1 entry.2))

def chrLatch (entry : Window × Nat) : Procedure Unit := do
  let (window, number) := entry
  match window.latch with
  | none => return ()
  | some latch =>
    let _ ← readPpu (Bench.latchTrigger window.base latch)
    let expected := pageTag (Bench.latchBank window number) window chrPageSize (← chrTotal)
    let got ← readPpu window.base
    record (.check .chrLatches (got == expected) (.chrLatch latch window.base got expected))
    record .chrBankRead

def chrLatches : Procedure Unit := do
  let windows := (← known).1.chrWindows.zipIdx
  windows.forM prepareLatch
  windows.forM chrLatch

def wramDisable : Procedure Unit := do
  match ← request (.setWram .disabled) with
  | .error err => record (.skipped "WRAM disable" err)
  | .ok () =>
    writeCpu Address.wramStart 0xC3
    let disabled ← readCpu Address.wramStart
    ask .wram "WRAM re-enable" (.setWram .readWrite)
    let kept ← readCpu Address.wramStart
    record (.check .wramDisable (disabled == openBus Address.wramStart && kept == 0xA5)
      (.wramDisabled disabled kept))

def wramProtect : Procedure Unit := do
  match ← request (.setWram .readOnly) with
  | .error err => record (.skipped "WRAM protect" err)
  | .ok () =>
    writeCpu Address.wramStart 0x11
    let got ← readCpu Address.wramStart
    ask .wram "WRAM re-enable" (.setWram .readWrite)
    record (.check .wramProtect (got == 0xA5) (.wramProtected got))

def wram : Procedure Unit := do
  record .triedWram
  ask .wram "WRAM enable" (.setWram .readWrite)
  writeCpu Address.wramStart 0xA5
  writeCpu Address.wramEnd 0x5A
  let first ← readCpu Address.wramStart
  let last ← readCpu Address.wramEnd
  record (.check .wram (first == 0xA5 && last == 0x5A) (.wramContents first last))
  wramDisable
  wramProtect

def seenAt (marker : UInt8) : List UInt16 → Procedure (List Bool)
  | [] => return []
  | base :: rest => do
    let got ← readPpu base
    return (got == marker) :: (← seenAt marker rest)

def mirroringMode (entry : Mirroring × Nat) : Procedure Unit := do
  let (mode, number) := entry
  match ← request (.setMirroring mode) with
  | .error err => record (.refused .mirroring "mirroring" err)
  | .ok () =>
    Bench.nametableBases.reverse.forM (writePpu · 0)
    let marker := 0x80 ||| UInt8.ofNat number
    writePpu 0x2000 marker
    let seen ← seenAt marker Bench.nametableBases
    record (.check .mirroring (seen == Bench.aliases mode) (.marker mode seen))

def oneScreenPages : Procedure Unit := do
  ask .mirroring "mirroring" (.setMirroring .oneScreenLower)
  writePpu 0x2000 0xAA
  ask .mirroring "mirroring" (.setMirroring .oneScreenUpper)
  writePpu 0x2000 0x55
  ask .mirroring "mirroring" (.setMirroring .oneScreenLower)
  let got ← readPpu 0x2000
  record (.check .mirroring (got == 0xAA) (.oneScreenOverlap got))

def mirroring : Procedure Unit := do
  let modes := (← known).1.mirroring.modes
  modes.zipIdx.forM mirroringMode
  if modes.contains .oneScreenLower && modes.contains .oneScreenUpper then oneScreenPages

def scanlines : Nat → Procedure Unit
  | 0 => return ()
  | count + 1 => do
    scanlines count
    let _ ← readPpu 0x0000
    let _ ← readPpu 0x1000

def advance (kind : IrqKind) (count : Nat) : Procedure Unit :=
  match kind with
  | .scanline => scanlines count
  | _ => tick count

def irqChecks (kind : IrqKind) : Procedure Unit := do
  let period := Bench.irqPeriod kind
  ask .irq "IRQ" (.configureIrq period true)
  advance kind (period - 1)
  let early ← irqLine
  advance kind 1
  let fired ← irqLine
  record (.check .irq (!early && fired) (.irqTiming period early fired))
  ask .irq "IRQ acknowledge" .acknowledgeIrq
  record (.check .irq (!(← irqLine)) .irqNotTakenBack)
  ask .irq "IRQ" (.configureIrq period false)
  advance kind (period * 2)
  record (.check .irq (!(← irqLine)) .irqNotMasked)
  let tooLong := kind.maxPeriod + 1
  let outcome ← request (.configureIrq tooLong true)
  record (.check .irq (Bench.refusedAs (.invalidIrqPeriod tooLong) outcome)
    (.irqPeriodAccepted tooLong))

def irq : Procedure Unit := do
  match (← known).1.irq with
  | .none => return ()
  | kind => irqChecks kind

end Procedure

def Routine.procedure : Routine → Procedure Unit
  | prgBanks => Procedure.prgBanks
  | prgSize => Procedure.prgSize
  | chrBanks => Procedure.chrBanks
  | chrLatches => Procedure.chrLatches
  | wram => Procedure.wram
  | mirroring => Procedure.mirroring
  | irq => Procedure.irq

/-! ## Trees and routines -/

namespace Procedure

variable {α : Type}

variable {bench : Bench} {procedure : Procedure Unit} {progress : Progress}

/-- From this bench on the procedure goes as some steps of a routine do. -/
def Does (procedure : Procedure Unit) (bench : Bench) (progress : Progress) : Prop :=
  procedure.exec bench = progress.map fun bench => ((), bench)

theorem after_eq_finish (procedure : Procedure α) (bench : Bench) :
    procedure.after bench = Bench.finish ((procedure.exec bench).map Prod.snd) := by
  induction procedure generalizing bench with
  | done | stop => rfl
  | operate op next ih => exact ih _ _
  | enter entry next ih => exact ih _

namespace Does

theorem after (h : Does procedure bench progress) :
    procedure.after bench = Bench.finish progress := by
  rw [after_eq_finish, h]
  cases progress <;> rfl

/-- What comes next may have a value. -/
theorem exec_bind (h : Does procedure bench progress) (next : Unit → Procedure α) :
    (procedure >>= next).exec bench = progress >>= (next ()).exec := by
  rw [Procedure.exec_bind, h]
  cases progress <;> rfl

theorem bind {next : Unit → Procedure Unit} {steps : Bench → Progress}
    (h : Does procedure bench progress) (hnext : ∀ later, Does (next ()) later (steps later)) :
    Does (procedure >>= next) bench (progress >>= steps) := by
  rw [Does, h.exec_bind]
  cases progress with
  | error => rfl
  | ok later => exact hnext later

/-- Steps that do not stop. -/
theorem step {next : Unit → Procedure Unit} {later : Bench} (h : Does procedure bench (.ok later))
    (hnext : Does (next ()) later progress) : Does (procedure >>= next) bench progress := by
  rw [Does, h.exec_bind]
  exact hnext

theorem forM {item : α → Procedure Unit} {step : Bench → α → Progress}
    (h : ∀ entry bench, Does (item entry) bench (step bench entry)) (entries : List α)
    (bench : Bench) : Does (entries.forM item) bench (entries.foldlM step bench) := by
  induction entries generalizing bench with
  | nil => rfl
  | cons entry rest ih =>
    rw [List.foldlM_cons]
    exact (h entry bench).bind ih

theorem forM_ok {item : α → Procedure Unit} {step : Bench → α → Bench}
    (h : ∀ entry bench, Does (item entry) bench (.ok (step bench entry))) (entries : List α)
    (bench : Bench) : Does (entries.forM item) bench (.ok (entries.foldl step bench)) := by
  induction entries generalizing bench with
  | nil => rfl
  | cons entry rest ih => exact (h entry bench).step (ih _)

end Does

/-! ## Steps of both -/

theorem after_known (next : Descriptor × Header → Procedure Unit) (bench : Bench) :
    (known >>= next).after bench = (next (bench.desc, bench.header)).after bench := rfl

theorem exec_known (next : Descriptor × Header → Procedure α) (bench : Bench) :
    (known >>= next).exec bench = (next (bench.desc, bench.header)).exec bench := rfl

theorem exec_request (req : Request) (next : Except MapperError Unit → Procedure α)
    (bench : Bench) :
    (request req >>= next).exec bench =
      (next (bench.request req).1).exec (bench.request req).2 := rfl

theorem does_pure (bench : Bench) : Does (pure ()) bench (.ok bench) := rfl

theorem does_writePpu (addr : UInt16) (data : UInt8) (bench : Bench) :
    Does (writePpu addr data) bench (.ok (bench.writePpu addr data)) := rfl

theorem does_poll {next : Bool → Procedure Unit} (h : Does (next bench.irqLine) bench progress) :
    Does (irqLine >>= next) bench progress := h

section Requests

variable (check : Check) (what : String) (req : Request) (bench : Bench)

theorem does_ask : Does (ask check what req) bench (bench.ask check what req) := by
  rw [Does, ask, exec_request, Bench.ask]
  obtain ⟨outcome, later⟩ := bench.request req
  cases outcome <;> rfl

theorem does_attempt :
    Does (attempt check what req) bench (.ok (Bench.finish (bench.ask check what req))) := by
  rw [Does, attempt, exec_request, Bench.ask]
  obtain ⟨outcome, later⟩ := bench.request req
  cases outcome <;> rfl

end Requests

/-! ## PRG -/

section Routines

variable (window : Window) (number bank : Nat) (entry : Window × Nat) (bench : Bench)

theorem does_prgBank :
    Does (prgBank window number bank) bench (Bench.prgBank window number bench bank) :=
  (does_ask ..).bind fun _ => rfl

theorem does_prgWindow : Does (prgWindow entry) bench (bench.prgWindow entry) :=
  (Does.forM (does_prgBank entry.1 entry.2) _ bench).bind fun later => does_attempt _ _ _ later

theorem after_prgBanks : prgBanks.after bench = bench.prgBanks :=
  (Does.forM does_prgWindow _ bench).after

theorem exec_findRepeat (first : UInt8) (banks : List Nat) :
    (findRepeat window first banks).exec bench = Bench.findRepeat window first banks bench := by
  induction banks generalizing bench with
  | nil => rfl
  | cons bank rest ih =>
    rw [findRepeat, (does_ask ..).exec_bind, Bench.findRepeat]
    cases bench.ask .prgSize "PRG size" (.selectPrg 0 bank) with
    | error => rfl
    | ok later =>
      -- A bank that repeats the first ends the search, in the tree and in the routine.
      show Procedure.exec (if later.read window.base == first then _ else _) later =
        if later.read window.base == first then _ else _
      split
      next => rfl
      next => exact ih later

theorem after_prgSize : prgSize.after bench = bench.prgSize := by
  rw [prgSize, after_known, Bench.prgSize]
  dsimp only
  cases bench.desc.prgWindows with
  | nil => rfl
  | cons window rest =>
    refine Does.after ((does_ask ..).bind fun first => ?_)
    rw [Does]
    show (findRepeat window (first.read window.base) (Bench.doublings window) >>= _).exec first = _
    rw [exec_bind, exec_findRepeat]
    cases Bench.findRepeat window (first.read window.base) (Bench.doublings window) first with
    | error => rfl
    | ok found => exact (does_ask _ _ _ found.2).bind fun _ => rfl

/-! ## CHR -/

theorem does_tagChrBank :
    Does (tagChrBank window number bank) bench (Bench.tagChrBank window number bench bank) :=
  (does_ask ..).bind fun _ => rfl

theorem does_chrBank :
    Does (chrBank window number bank) bench (Bench.chrBank window number bench bank) :=
  (does_ask ..).bind fun _ => rfl

theorem does_chrWindow : Does (chrWindow entry) bench (bench.chrWindow entry) := by
  obtain ⟨window, number⟩ := entry
  rw [Does, chrWindow, exec_known, Bench.chrWindow]
  dsimp only
  -- RAM has a pass of its own before the one that both kinds of memory have.
  by_cases hram : bench.header.chrRomSize = 0
  · rw [if_pos hram, if_pos hram]
    refine (Does.forM (does_tagChrBank window number) _ bench).bind fun tagged => ?_
    exact (Does.forM (does_chrBank window number) _ tagged).bind fun _ => does_attempt ..
  · rw [if_neg hram, if_neg hram]
    exact (Does.forM (does_chrBank window number) _ bench).bind fun _ => does_attempt ..

theorem after_chrBanks : chrBanks.after bench = bench.chrBanks :=
  (Does.forM does_chrWindow _ bench).after

theorem does_prepareLatch : Does (prepareLatch entry) bench (bench.prepareLatch entry) :=
  does_ask ..

theorem does_chrLatch : Does (chrLatch entry) bench (.ok (bench.chrLatch entry)) := by
  obtain ⟨window, number⟩ := entry
  rw [chrLatch, Bench.chrLatch]
  cases window.latch with
  | none => rfl
  | some latch => rfl

theorem after_chrLatches : chrLatches.after bench = bench.chrLatches :=
  ((Does.forM does_prepareLatch _ bench).bind fun later => Does.forM_ok does_chrLatch _ later).after

/-! ## Work RAM -/

theorem does_wramDisable : Does wramDisable bench bench.wramDisable := by
  rw [Does, wramDisable, exec_request, Bench.wramDisable]
  obtain ⟨outcome, later⟩ := bench.request (.setWram .disabled)
  cases outcome with
  | error err => rfl
  | ok _ => exact (does_ask ..).bind fun _ => rfl

theorem does_wramProtect : Does wramProtect bench bench.wramProtect := by
  rw [Does, wramProtect, exec_request, Bench.wramProtect]
  obtain ⟨outcome, later⟩ := bench.request (.setWram .readOnly)
  cases outcome with
  | error err => rfl
  | ok _ => exact (does_ask ..).bind fun _ => rfl

theorem after_wram : wram.after bench = bench.wram := by
  refine Does.after (Does.step rfl ((does_ask ..).bind fun opened => ?_))
  exact (does_wramDisable _).bind fun later => does_wramProtect later

/-! ## Mirroring -/

theorem exec_seenAt (marker : UInt8) (bases : List UInt16) :
    (seenAt marker bases).exec bench = .ok (Bench.seenAt marker bases bench) := by
  induction bases generalizing bench with
  | nil => rfl
  | cons base rest ih =>
    rw [seenAt, Bench.seenAt]
    show (seenAt marker rest >>= _).exec (bench.readPpu base).2 = _
    rw [exec_bind, ih]
    rfl

theorem does_mirroringMode (entry : Mirroring × Nat) (bench : Bench) :
    Does (mirroringMode entry) bench (.ok (bench.mirroringMode entry)) := by
  obtain ⟨mode, number⟩ := entry
  rw [Does, mirroringMode, Bench.mirroringMode]
  dsimp only
  rw [exec_request]
  obtain ⟨outcome, later⟩ := bench.request (.setMirroring mode)
  cases outcome with
  | error err => rfl
  | ok _ =>
    refine Does.step (Does.forM_ok (does_writePpu · 0) _ later) (Does.step rfl ?_)
    rw [Does, exec_bind, exec_seenAt]
    rfl

theorem does_oneScreenPages : Does oneScreenPages bench bench.oneScreenPages :=
  (does_ask ..).bind fun _ => Does.step rfl ((does_ask ..).bind fun _ =>
    Does.step rfl ((does_ask ..).bind fun _ => rfl))

theorem after_mirroring : mirroring.after bench = bench.mirroring := by
  have hmodes := Does.forM_ok does_mirroringMode bench.desc.mirroring.modes.zipIdx bench
  rw [mirroring, after_known, Bench.mirroring]
  dsimp only
  split
  next => exact (hmodes.step (does_oneScreenPages _)).after
  next => exact (hmodes.step (does_pure _)).after

/-! ## IRQ -/

theorem does_scanlines (count : Nat) :
    Does (scanlines count) bench (.ok (bench.advance .scanline count)) := by
  induction count with
  | zero => rfl
  | succ count ih => exact ih.step rfl

theorem does_advance (kind : IrqKind) (count : Nat) :
    Does (advance kind count) bench (.ok (bench.advance kind count)) := by
  cases kind with
  | scanline => exact does_scanlines bench count
  | none | cpuCycle => rfl

theorem does_irqChecks (kind : IrqKind) :
    Does (irqChecks kind) bench (Bench.irqChecks kind bench) := by
  refine (does_ask ..).bind fun armed => ?_
  -- The line is polled once before the period is over and once after.
  refine Does.step (does_advance ..) (does_poll (Does.step (does_advance ..) (does_poll ?_)))
  refine Does.step rfl ((does_ask ..).bind fun taken => ?_)
  refine does_poll (Does.step rfl ((does_ask ..).bind fun masked => ?_))
  exact Does.step (does_advance ..) (does_poll (Does.step rfl rfl))

theorem after_irq : irq.after bench = bench.irq := by
  rw [irq, after_known, Bench.irq]
  dsimp only
  cases bench.desc.irq with
  | none => rfl
  | scanline | cpuCycle => exact (does_irqChecks ..).after

end Routines

end Procedure

/-- Doing what the tree of a routine says is performing the routine. -/
theorem Routine.after_procedure (routine : Routine) (bench : Bench) :
    routine.procedure.after bench = routine.perform bench := by
  cases routine with
  | prgBanks => exact Procedure.after_prgBanks bench
  | prgSize => exact Procedure.after_prgSize bench
  | chrBanks => exact Procedure.after_chrBanks bench
  | chrLatches => exact Procedure.after_chrLatches bench
  | wram => exact Procedure.after_wram bench
  | mirroring => exact Procedure.after_mirroring bench
  | irq => exact Procedure.after_irq bench

end NesCartridge
