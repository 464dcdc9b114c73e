/-
  NesCartridge.Cartridge

  A cartridge: its header, its board, and the emulated hardware. It is loaded from the bytes of
  a file or put together from memories.
-/
import NesCartridge.Hardware
import NesCartridge.Header

namespace NesCartridge

structure Cartridge where
  header : Header
  board : Board
  hardware : Hardware

/-- Size of the CHR RAM of a board whose header names none. -/
def Board.defaultChrRam : Board → Nat
  | .unrom512 | .action53 => 0x8000
  | _ => 0x2000

namespace Cartridge

/-- A cartridge around given memories, with a header that says what they are. -/
def ofParts (board : Board) (prg : Memory) (chr : Chr) (solder : Mirroring) : Cartridge where
  header :=
    { mapper := board.descriptor.id
      prgRomSize := prg.size
      chrRomSize := if chr.writable then 0 else chr.cells.size
      chrRamSize := if chr.writable then chr.cells.size else 0
      mirroring := solder }
  board
  hardware := .powerOn board prg chr solder

/-- Where the PRG memory starts in a file. -/
def prgStart (header : Header) : Nat :=
  Header.length + if header.hasTrainer then Header.trainerLength else 0

/-- Pattern memory of a file: the CHR ROM behind the PRG memory, or cleared RAM. -/
def chrOfFile (header : Header) (board : Board) (data : Memory) : Chr :=
  let chrStart := prgStart header + header.prgRomSize
  if 0 < header.chrRomSize then .rom (data.extract chrStart (chrStart + header.chrRomSize))
  else if 0 < header.chrRamSize then .ram header.chrRamSize
  else .ram board.defaultChrRam

/-- Load a file. Its header must be intact and name a known board, and the file must hold all
the memory that the header announces; bytes after that are ignored. -/
def ofBytes (data : Memory) : Except CartridgeError Cartridge := do
  let header ← Header.parse data
  let board ← header.board.mapError .mapper
  let prgEnd := prgStart header + header.prgRomSize
  let fileEnd := prgEnd + header.chrRomSize
  -- The length comes first: a short file counts as truncated even if it has no PRG memory.
  if data.size < fileEnd then
    throw (.truncated fileEnd data.size)
  else if header.prgRomSize = 0 then
    throw (.prgSize 0)
  else
    let prg := data.extract (prgStart header) prgEnd
    return {
      header
      board
      hardware := .powerOn board prg (chrOfFile header board data) header.mirroring }

/-- A write below `$2000` reaches CHR RAM, any other the work RAM or the chip. -/
def write (cart : Cartridge) (addr : UInt16) (data : UInt8) : Cartridge :=
  { cart with hardware := cart.hardware.write addr data }

def read (cart : Cartridge) (addr : UInt16) : UInt8 :=
  cart.hardware.read addr

/-- The PPU accessed pattern memory at this address. -/
def fetched (cart : Cartridge) (addr : UInt16) : Cartridge :=
  { cart with hardware := cart.hardware.fetched addr }

/-- A CPU cycle passed. -/
def clock (cart : Cartridge) : Cartridge :=
  { cart with hardware := cart.hardware.clock }

def irq (cart : Cartridge) : Bool :=
  cart.hardware.irq

def mirroring (cart : Cartridge) : Mirroring :=
  cart.hardware.mirroring

end Cartridge

end NesCartridge
