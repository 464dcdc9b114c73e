/-
  NesCartridge.Diagnostics.Bench

  A console with a controller, and the report that is being written about it. A routine works on
  the bench step by step and stops when the controller refuses something that it needs.
-/
import NesCartridge.Console
import NesCartridge.Diagnostics.Report
import NesCartridge.Session

namespace NesCartridge

structure Bench where
  session : Session Console
  report : Report

/-- A routine under way: `ok` goes on, `error` has stopped for good. -/
abbrev Progress := Except Bench Bench

namespace Bench

/-- A bench with an empty report. -/
def start (session : Session Console) : Bench :=
  { session, report := { board := session.controller.board } }

/-- Where a routine ended, stopped or not. -/
def finish : Progress → Bench
  | .ok bench => bench
  | .error bench => bench

def board (bench : Bench) : Board :=
  bench.session.controller.board

def desc (bench : Bench) : Descriptor :=
  bench.board.descriptor

def console (bench : Bench) : Console :=
  bench.session.bus

def header (bench : Bench) : Header :=
  bench.console.cart.header

/-! ## Steps -/

def onConsole (bench : Bench) (f : Console → Console) : Bench :=
  { bench with session := { bench.session with bus := f bench.session.bus } }

def onReport (bench : Bench) (f : Report → Report) : Bench :=
  { bench with report := f bench.report }

def request (bench : Bench) (req : Request) : Except MapperError Unit × Bench :=
  let (outcome, session) := bench.session.request req
  (outcome, { bench with session })

/-- Make a request that `check` needs; a refusal is recorded and stops the routine. -/
def ask (bench : Bench) (check : Check) (what : String) (req : Request) : Progress :=
  match bench.request req with
  | (.ok (), bench) => .ok bench
  | (.error err, bench) => .error (bench.onReport (·.refused check what err))

def check (bench : Bench) (check : Check) (ok : Bool) (note : Note) : Bench :=
  bench.onReport (·.check check ok note)

def read (bench : Bench) (addr : UInt16) : UInt8 :=
  bench.console.readCpu addr

def write (bench : Bench) (addr : UInt16) (data : UInt8) : Bench :=
  bench.onConsole (·.writeCpu addr data)

def readPpu (bench : Bench) (addr : UInt16) : UInt8 × Bench :=
  let (data, bus) := bench.session.bus.readPpu addr
  (data, { bench with session := { bench.session with bus } })

def writePpu (bench : Bench) (addr : UInt16) (data : UInt8) : Bench :=
  bench.onConsole (·.writePpu addr data)

def irqLine (bench : Bench) : Bool :=
  bench.console.cart.irq

end Bench

end NesCartridge
