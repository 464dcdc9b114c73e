/-
  NesCartridge.Controller.Protocol

  How each board is written: the register writes that make its hardware hold what a shadow says.
  Every function takes the shadow as it shall be afterwards, so a register that holds several
  things at once (the MMC1 PRG register, the Action 53 mode, a discrete latch) keeps the others.
-/
import NesCartridge.Bus
import NesCartridge.Controller.Request

namespace NesCartridge

/-! ## Register encodings -/

/-- Mirroring field of MMC1 and Action 53. -/
def Mirroring.screenFirstBits : Mirroring → UInt8
  | .oneScreenLower => 0
  | .oneScreenUpper => 1
  | .vertical => 2
  | _ => 3

/-- Mirroring parameter of FME-7. -/
def Mirroring.screenLastBits : Mirroring → UInt8
  | .vertical => 0
  | .horizontal => 1
  | .oneScreenLower => 2
  | _ => 3

/-- Mirroring register of MMC2, MMC3 and MMC4. -/
def Mirroring.horizontalBit : Mirroring → UInt8
  | .horizontal => 1
  | _ => 0

namespace Shadow

/-- The mirroring in force, vertical where none is selected. -/
def mode (shadow : Shadow) : Mirroring :=
  shadow.mirroring.getD .vertical

/-- MMC1 control: fixed last PRG bank and separate CHR halves. -/
def mmc1Control (shadow : Shadow) : UInt8 :=
  0x1C ||| shadow.mode.screenFirstBits

/-- MMC1 PRG register: the bank, and bit 4 while the work RAM is off. -/
def mmc1Prg (shadow : Shadow) : UInt8 :=
  UInt8.ofNat (shadow.prgBank 0) ||| (if shadow.wram = some .disabled then 0x10 else 0)

/-- Action 53 mode: fixed last bank within an outer bank of 256 KiB, so that inner banks reach
all of it. -/
def action53Mode (shadow : Shadow) : UInt8 :=
  0x3C ||| shadow.mode.screenFirstBits

/-- Screen bit that Action 53 takes from CHR and inner bank writes in one-screen modes. -/
def action53Screen (shadow : Shadow) : UInt8 :=
  if shadow.mode = .oneScreenUpper then 0x10 else 0

/-- MMC3 work RAM register. -/
def mmc3Wram (shadow : Shadow) : UInt8 :=
  match shadow.wram with
  | some .disabled => 0x00
  | some .readOnly => 0xC0
  | _ => 0x80

/-- FME-7 parameter 8: RAM at `$6000`, enabled or not. -/
def fme7Low (shadow : Shadow) : UInt8 :=
  if shadow.wram = some .disabled then 0x40 else 0xC0

/-- A discrete latch. -/
def latchByte (shadow : Shadow) (layout : LatchLayout) : UInt8 :=
  let screen : UInt8 := if shadow.mode = .oneScreenUpper then 1 else 0
  let latch := layout.screen.insert 0 screen
  let latch := layout.chr.insert latch (UInt8.ofNat (shadow.chrBank 0))
  layout.prg.insert latch (UInt8.ofNat (shadow.prgBank 0))

end Shadow

/-! ## Ways of writing -/

/-- The five bits of a register value, low bit first, at one address. -/
def serialWrites (addr : UInt16) (value : UInt8) : List RegisterWrite :=
  (List.range 5).map fun i => ⟨addr, UInt8.ofNat ((value.toNat >>> i) % 2)⟩

/-- Name a register, then store into it. -/
def pairWrites (select data : UInt16) (register value : UInt8) : List RegisterWrite :=
  [⟨select, register⟩, ⟨data, value⟩]

def mmc3Writes := pairWrites Address.mmc3Select Address.mmc3Data
def fme7Writes := pairWrites Address.fme7Select Address.fme7Data
def action53Writes := pairWrites Address.action53Select Address.action53Data

/-- A latch write. Where the ROM drives the data lines too, it goes to the table of bytes that
are equal to it. -/
def latchWrites (desc : Descriptor) (value : UInt8) : List RegisterWrite :=
  if desc.busConflicts then [⟨Address.identityTable + value.toUInt16, value⟩]
  else [⟨Address.latch, value⟩]

namespace Board

/-- The latch write of a discrete board; nothing on a board without a latch. -/
def discreteWrites (board : Board) (shadow : Shadow) : List RegisterWrite :=
  match board.descriptor.latch with
  | some layout => latchWrites board.descriptor (shadow.latchByte layout)
  | none => []

/-- Address of the select register, on boards that have one. -/
def selectAddr? (board : Board) : Option UInt16 :=
  match board with
  | .mmc3 => some Address.mmc3Select
  | .fme7 => some Address.fme7Select
  | .action53 => some Address.action53Select
  | _ => none

/-- Register of a CHR window of MMC2 and MMC4. -/
def tileLatchAddr (window : Nat) : UInt16 :=
  match window with
  | 0 => Address.mmc2ChrFd0000
  | 1 => Address.mmc2ChrFe0000
  | 2 => Address.mmc2ChrFd1000
  | _ => Address.mmc2ChrFe1000

/-! ## Writes per request -/

/-- Map the shadow's bank into a PRG window. -/
def prgWrites (board : Board) (shadow : Shadow) (window : Nat) : List RegisterWrite :=
  let bank := UInt8.ofNat (shadow.prgBank window)
  match board with
  | .mmc1 => serialWrites Address.mmc1Prg shadow.mmc1Prg
  | .mmc3 => mmc3Writes (UInt8.ofNat (6 + window)) bank
  | .mmc2 | .mmc4 => [⟨Address.mmc2Prg, bank⟩]
  | .fme7 => fme7Writes (UInt8.ofNat (9 + window)) bank
  | .action53 => action53Writes 0x01 (bank ||| shadow.action53Screen)
  | _ => board.discreteWrites shadow

/-- Map the shadow's bank into a CHR window. The 2 KiB windows of MMC3 count in 1 KiB units. -/
def chrWrites (board : Board) (shadow : Shadow) (window : Nat) : List RegisterWrite :=
  let bank := UInt8.ofNat (shadow.chrBank window)
  match board with
  | .mmc1 => serialWrites (if window = 0 then Address.mmc1Chr0 else Address.mmc1Chr1) bank
  | .mmc3 => mmc3Writes (UInt8.ofNat window) (if window < 2 then bank <<< 1 else bank)
  | .mmc2 | .mmc4 => [⟨tileLatchAddr window, bank⟩]
  | .fme7 => fme7Writes (UInt8.ofNat window) bank
  | .action53 => action53Writes 0x00 (bank ||| shadow.action53Screen)
  | _ => board.discreteWrites shadow

/-- Select the shadow's mirroring. -/
def mirroringWrites (board : Board) (shadow : Shadow) : List RegisterWrite :=
  match board with
  | .mmc1 => serialWrites Address.mmc1Control shadow.mmc1Control
  | .mmc3 => [⟨Address.mmc3Mirroring, shadow.mode.horizontalBit⟩]
  | .mmc2 | .mmc4 => [⟨Address.mmc2Mirroring, shadow.mode.horizontalBit⟩]
  | .fme7 => fme7Writes 0x0C shadow.mode.screenLastBits
  | .action53 => action53Writes 0x80 shadow.action53Mode
  | _ => board.discreteWrites shadow

/-- Give the work RAM the shadow's access mode. -/
def wramWrites (board : Board) (shadow : Shadow) : List RegisterWrite :=
  match board.descriptor.wram with
  | .none | .fixed => []
  | .mmc1 => serialWrites Address.mmc1Prg shadow.mmc1Prg
  | .mmc3 => [⟨Address.mmc3WramProtect, shadow.mmc3Wram⟩]
  | .fme7 => fme7Writes 0x08 shadow.fme7Low

/-- Load the IRQ counter with `count`, one below the period. -/
def armWrites (board : Board) (count : Nat) (enabled : Bool) : List RegisterWrite :=
  match board with
  | .mmc3 =>
    [⟨Address.mmc3IrqPeriod, UInt8.ofNat count⟩, ⟨Address.mmc3IrqReload, 0⟩,
      ⟨Address.mmc3IrqDisable, 0⟩]
      ++ if enabled then [⟨Address.mmc3IrqEnable, 0⟩] else []
  | .fme7 =>
    -- The counter stands still while it is loaded.
    fme7Writes 0x0D 0 ++ fme7Writes 0x0E (UInt8.ofNat count)
      ++ fme7Writes 0x0F (UInt8.ofNat (count / 256))
      ++ if enabled then fme7Writes 0x0D 0x81 else []
  | _ => []

/-- Take back a pending IRQ and leave the counter running. -/
def acknowledgeWrites (board : Board) : List RegisterWrite :=
  match board with
  | .mmc3 => [⟨Address.mmc3IrqDisable, 0⟩, ⟨Address.mmc3IrqEnable, 0⟩]
  | .fme7 => fme7Writes 0x0D 0x81
  | _ => []

/-- Bring the board up, whatever state it is in. On MMC1 a write with bit 7 set first empties the
serial register. -/
def bringUpWrites (board : Board) : List RegisterWrite :=
  let shadow := Shadow.atBringUp board
  match board with
  | .mmc1 =>
    ⟨Address.mmc1Control, 0x80⟩
      :: (board.mirroringWrites shadow ++ board.chrWrites shadow 0 ++ board.chrWrites shadow 1
        ++ board.prgWrites shadow 0)
  | .mmc3 =>
    -- Each select write also clears the bits that exchange parts of the address map.
    (List.range 8).flatMap (fun r => mmc3Writes (UInt8.ofNat r) 0)
      ++ board.mirroringWrites shadow ++ board.wramWrites shadow
      ++ [⟨Address.mmc3IrqDisable, 0⟩]
  | .mmc2 | .mmc4 =>
    board.prgWrites shadow 0 ++ (List.range 4).flatMap (board.chrWrites shadow)
      ++ board.mirroringWrites shadow
  | .fme7 =>
    -- The last parameter stops the counter and takes a pending IRQ back.
    (List.range 8).flatMap (board.chrWrites shadow) ++ board.wramWrites shadow
      ++ (List.range 3).flatMap (board.prgWrites shadow) ++ board.mirroringWrites shadow
      ++ fme7Writes 0x0D 0
  | .action53 =>
    -- The mode goes first, so that no later write moves the screen.
    board.mirroringWrites shadow ++ action53Writes 0x81 0 ++ board.chrWrites shadow 0
      ++ board.prgWrites shadow 0
  | _ => board.discreteWrites shadow

end Board

end NesCartridge
