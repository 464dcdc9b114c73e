/-
  NesCartridge.CommandLine.Listing

  The listings that the commands print, line by line, plain or in colour.
-/
import NesCartridge.Cartridge
import NesCartridge.Diagnostics.Report

namespace NesCartridge.CommandLine

/-! ## Colour -/

/-- Ways of setting text off on a terminal. -/
inductive Style where
  | heading
  | pass
  | fail
  | note

/-- Bold cyan, bold green, bold red and yellow. -/
def Style.escape : Style → String
  | heading => "\x1b[1;36m"
  | pass => "\x1b[1;32m"
  | fail => "\x1b[1;31m"
  | note => "\x1b[33m"

def paint (color : Bool) (style : Style) (text : String) : String :=
  if color then style.escape ++ text ++ "\x1b[0m" else text

def verdict (color ok : Bool) : String :=
  if ok then paint color .pass "PASS" else paint color .fail "FAIL"

/-! ## The registry -/

/-- The optional features of a board. -/
def features (desc : Descriptor) : List String :=
  (if desc.mirroring.hasChoice then
    ["mirroring " ++ "/".intercalate (desc.mirroring.modes.map Mirroring.name)] else [])
  ++ (match desc.wram with
    | .none => []
    | .fixed => ["WRAM"]
    | _ => ["WRAM control"])
  ++ (match desc.irq with
    | .none => []
    | .scanline => ["scanline IRQ"]
    | .cpuCycle => ["CPU cycle IRQ"])
  ++ (if desc.busConflicts then ["bus conflicts"] else [])

def featuresText (desc : Descriptor) : String :=
  ", ".intercalate (features desc)

/-- One board as a row of the registry. -/
def boardLine (board : Board) : String :=
  let desc := board.descriptor
  Text.right 3 (toString desc.id) ++ "  " ++ Text.left 12 desc.name ++ " "
    ++ Text.right 4 (toString desc.prgWindows.length) ++ " "
    ++ Text.right 4 (toString desc.chrWindows.length) ++ "  " ++ featuresText desc

def registryLines (color : Bool) : List String :=
  paint color .heading " ID  Board         PRG  CHR  Features" :: Board.all.map boardLine

/-! ## One cartridge -/

def registerLine (register : Register) : String :=
  s!"  ${Text.addr register.addr}  {register.role.name}"

def windowLine (kind : String) (entry : Window × Nat) : String :=
  let (window, number) := entry
  let latch := match window.latch with
    | some latch => " latch " ++ latch.name
    | none => ""
  s!"  {kind} {number}: ${Text.addr window.base}-${Text.addr window.last} "
    ++ Text.right 2 (Text.kib window.size) ++ s!" KiB, banks 0-{window.maxBank}" ++ latch

/-- Registers, windows and features of a board. -/
def descriptorLines (color : Bool) (desc : Descriptor) : List String :=
  [paint color .heading "Registers"]
  ++ (if desc.registers.isEmpty then ["  (none)"] else [])
  ++ desc.registers.map registerLine
  ++ [paint color .heading "Windows"]
  ++ desc.prgWindows.zipIdx.map (windowLine "PRG")
  ++ desc.chrWindows.zipIdx.map (windowLine "CHR")
  ++ (if features desc = [] then [] else ["  " ++ featuresText desc])

/-- The header in one line. -/
def headerLine (header : Header) (desc : Descriptor) : String :=
  let format := if header.nes2 then "NES 2.0" else "iNES"
  let chrKind := if 0 < header.chrRomSize then "ROM" else "RAM"
  let chrSize := Nat.max header.chrRomSize header.chrRamSize
  let battery := if header.hasBattery then ", battery" else ""
  s!"  {format} mapper {header.mapper}.{header.submapper} ({desc.name}), "
    ++ s!"PRG {Text.kib header.prgRomSize} KiB, CHR {chrKind} {Text.kib chrSize} KiB, "
    ++ header.mirroring.name ++ battery

def cartridgeLines (color : Bool) (path : String) (cart : Cartridge) : List String :=
  paint color .heading path :: headerLine cart.header cart.board.descriptor
    :: descriptorLines color cart.board.descriptor

/-! ## A report -/

def checkLine (color : Bool) (report : Report) (check : Check) : String :=
  "  " ++ Text.left 14 check.label ++ " " ++ verdict color (!report.failures.contains check)

def reportLines (color : Bool) (report : Report) : List String :=
  let desc := report.board.descriptor
  [paint color .heading s!"{desc.name} (mapper {desc.id})"]
  ++ report.tested.toList.map (checkLine color report)
  ++ [s!"  {report.prgBanks} PRG and {report.chrBanks} CHR bank selections verified"]
  ++ (match report.prgSize with
    | some size => [s!"  PRG size {Text.kib size} KiB"]
    | none => [])
  ++ report.notes.toList.map (fun note => "  " ++ paint color .note note.message)
  ++ [verdict color report.passed]

/-- Log lines of a report: a warning for every failure. -/
def warningLines (report : Report) : List String :=
  (report.notes.toList.filter Note.isFailure).map fun note =>
    s!"WARN [cartprobe::diagnostics] {report.board.descriptor.name}: {note.message}"

end NesCartridge.CommandLine
