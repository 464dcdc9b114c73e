/-
  NesCartridge.CommandLine

  The program as a function: from its arguments, and the contents of the one file it may read, to
  what it prints and its exit code.
-/
import NesCartridge.CommandLine.Config
import NesCartridge.CommandLine.Folder
import NesCartridge.CommandLine.Listing
import NesCartridge.Diagnostics

namespace NesCartridge.CommandLine

structure Outcome where
  exitCode : Nat
  stdout : String
  stderr : String
  deriving DecidableEq

/-- Lines of text, each with its line end. -/
def unlines (lines : List String) : String :=
  String.join (lines.map (· ++ "\n"))

/-- What a command prints, what it logs, and whether all went well. -/
structure Printed where
  lines : List String
  log : List String := []
  ok : Bool := true

/-- Run the diagnostics on an image made for a board. -/
def probe (mapper : Nat) (prgKib chrKib : Option Nat) (color : Bool) :
    Except CartridgeError Printed := do
  let board ← (Board.resolve mapper).mapError .mapper
  let spec := ImageSpec.forBoard board
  let spec ← prgKib.elim (pure spec) spec.withPrgKib
  let spec ← chrKib.elim (pure spec) spec.withChrKib
  let cart ← spec.synthesize board
  let report := (Bench.run (.start board (.powerOn cart))).report
  return { lines := reportLines color report, log := warningLines report, ok := report.passed }

/-- Describe the cartridge in a file. -/
def inspect (path : String) (contents : Except FileError Memory) (color : Bool) :
    Except CartridgeError Printed := do
  let data ← contents.mapError .io
  let cart ← Cartridge.ofBytes data
  return { lines := cartridgeLines color path cart }

def execute (config : Config) (readFile : String → Except FileError Memory) :
    Except CartridgeError Printed :=
  match config.command with
  | .list => .ok { lines := registryLines config.color }
  | .probe mapper prgKib chrKib => probe mapper prgKib chrKib config.color
  | .inspect path => inspect path (readFile path) config.color

/-- A verbose run names the file that it is about to read. -/
def announcement (config : Config) : List String :=
  match config.command with
  | .inspect path =>
    if config.verbose then
      [s!"INFO [cartprobe::cartridge::cartridge] Loading cartridge from {path}"]
    else []
  | _ => []

/-- Exit code 0 stands for success, 1 for a failure and 2 for arguments that make no sense. -/
def run (arguments : List String) (readFile : String → Except FileError Memory) : Outcome :=
  match Config.ofArgs arguments with
  | .error err => { exitCode := 2, stdout := "", stderr := err.message ++ "\n\n" ++ usage ++ "\n" }
  | .ok config =>
    let opening := announcement config
    match execute config readFile with
    | .error err =>
      { exitCode := 1
        stdout := ""
        stderr := unlines (opening ++ [s!"ERROR [cartprobe] {err.message}"]) }
    | .ok printed =>
      { exitCode := if printed.ok then 0 else 1
        stdout := unlines printed.lines
        stderr := unlines (opening ++ printed.log) }

/-- Path of the file that a run with these arguments reads. -/
def fileToRead? (arguments : List String) : Option String :=
  match Config.ofArgs arguments with
  | .ok { command := .inspect path, .. } => some path
  | _ => none

end NesCartridge.CommandLine
