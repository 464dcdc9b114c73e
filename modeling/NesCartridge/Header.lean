/-
  NesCartridge.Header

  The 16-byte header of a cartridge file, in its two dialects. iNES gives memory sizes in one
  byte each; NES 2.0 adds high bits for them and for the mapper number, a submapper, and the
  size of CHR RAM.
-/
import NesCartridge.Memory.Banked
import NesCartridge.Registry.Descriptor

namespace NesCartridge

/-- Why a cartridge file cannot be read from disk. -/
inductive FileError where
  | notFound
  | isDirectory
  | notDirectory
  /-- A name of the path, or the whole path, has too many bytes. -/
  | nameTooLong
  | other (text : String)
  deriving DecidableEq

def FileError.message : FileError → String
  | notFound => "No such file or directory (os error 2)"
  | isDirectory => "Is a directory (os error 21)"
  | notDirectory => "Not a directory (os error 20)"
  | nameTooLong => "File name too long (os error 36)"
  | other text => text

/-- Why there is no cartridge. -/
inductive CartridgeError where
  | io (error : FileError)
  | format
  | truncated (expected actual : Nat)
  | prgSize (size : Nat)
  | chrSize (size : Nat)
  | mapper (error : MapperError)
  deriving DecidableEq

def CartridgeError.message : CartridgeError → String
  | io error => s!"I/O error: {error.message}"
  | format => "not an iNES file"
  | truncated expected actual => s!"file is truncated: need {expected} bytes, got {actual}"
  | prgSize size => s!"invalid PRG ROM size {size}"
  | chrSize size => s!"invalid CHR size {size}"
  | mapper error => error.message

/-- What a header says. -/
structure Header where
  mapper : Nat
  submapper : Nat := 0
  prgRomSize : Nat
  chrRomSize : Nat
  /-- Size of CHR RAM as far as the header states it. -/
  chrRamSize : Nat := 0
  mirroring : Mirroring
  hasTrainer : Bool := false
  hasBattery : Bool := false
  nes2 : Bool := false
  deriving DecidableEq

namespace Header

/-- Bytes before the trainer or the PRG memory. -/
def length : Nat := 16

def trainerLength : Nat := 512

/-- `NES` and a DOS end-of-file mark. -/
def magic : List UInt8 := [0x4E, 0x45, 0x53, 0x1A]

/-- Low and high half of a byte. -/
def lowNibble (byte : UInt8) : Nat := byte.toNat % 16
def highNibble (byte : UInt8) : Nat := byte.toNat / 16

/-- The mirroring byte 6 asks for. -/
def mirroringOf (flags : UInt8) : Mirroring :=
  if flags &&& 0x08 != 0 then .fourScreen
  else if flags &&& 0x01 != 0 then .vertical
  else .horizontal

/-- CHR RAM of 64 bytes shifted up; a shift of zero means none. -/
def chrRamOf (shift : Nat) : Nat :=
  if shift = 0 then 0 else 64 <<< shift

/-- The fields of a header, given its bytes by position. -/
def decode (byte : Nat → UInt8) : Header :=
  let flags6 := byte 6
  let flags7 := byte 7
  -- Bits 2 and 3 of byte 7 tell the dialects apart.
  let nes2 := flags7 &&& 0x0C == 0x08
  let mapper := highNibble flags7 * 16 + highNibble flags6
  let common : Header :=
    { mapper
      prgRomSize := (byte 4).toNat * 0x4000
      chrRomSize := (byte 5).toNat * 0x2000
      mirroring := mirroringOf flags6
      hasTrainer := flags6 &&& 0x04 != 0
      hasBattery := flags6 &&& 0x02 != 0
      nes2 }
  if nes2 then
    { common with
      mapper := lowNibble (byte 8) * 256 + mapper
      submapper := highNibble (byte 8)
      prgRomSize := (lowNibble (byte 9) * 256 + (byte 4).toNat) * 0x4000
      chrRomSize := (highNibble (byte 9) * 256 + (byte 5).toNat) * 0x2000
      chrRamSize := chrRamOf (lowNibble (byte 11)) }
  -- In iNES the bytes from 8 on carry nothing.
  else common

/-- Read the header at the start of a file. -/
def parse (data : Memory) : Except CartridgeError Header :=
  if data.size < length then .error (.truncated length data.size)
  else if (data.extract 0 4).toList ≠ magic then .error .format
  else .ok (decode fun i => data.getD i 0)

/-- The board with the header's mapper number. -/
def board (header : Header) : Except MapperError Board :=
  Board.resolve header.mapper

end Header

end NesCartridge
