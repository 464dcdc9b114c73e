/-
  NesCartridge.Image

  Test images that describe themselves: every 8 KiB page of PRG starts with its page number and
  ends with a table whose byte `v` is `v`, and every 1 KiB page of CHR ROM starts with its page
  number. A read at the base of a window then tells which bank is mapped there, and a latch
  write meets a ROM byte equal to it at `$FF00` plus its value, whatever is mapped.
-/
import NesCartridge.Cartridge

namespace NesCartridge

/-- Sizes of the pages that carry a number. -/
def prgPageSize : Nat := 0x2000
def chrPageSize : Nat := 0x400

/-- Place of the identity table in a PRG page. -/
def identityOffset : Nat := 0x1F00

/-! ## Contents -/

/-- PRG page number `page`. -/
def prgPage (page : Nat) : Memory :=
  #[UInt8.ofNat page] ++ Array.replicate (identityOffset - 1) 0xFF
    ++ Array.ofFn (n := prgPageSize - identityOffset) fun i => UInt8.ofNat i

/-- CHR page number `page`. -/
def chrPage (page : Nat) : Memory :=
  #[UInt8.ofNat page] ++ Array.replicate (chrPageSize - 1) 0

/-- `size` bytes of numbered pages; the last may be cut short. -/
def taggedPrg (size : Nat) : Memory :=
  ((Array.range (size / prgPageSize + 1)).flatMap prgPage).extract 0 size

/-- `size` bytes of numbered pages; the last may be cut short. -/
def taggedChr (size : Nat) : Memory :=
  ((Array.range (size / chrPageSize + 1)).flatMap chrPage).extract 0 size

/-! ## Sizes -/

/-- Sizes and kind of the memories of an image. -/
structure ImageSpec where
  prgSize : Nat
  chrSize : Nat
  chrRam : Bool
  deriving DecidableEq

/-- A given number of KiB in bytes, unless that is not a size. -/
def kibToBytes? (kib : Nat) : Option Nat :=
  if kib * 1024 < sizeLimit then some (kib * 1024) else none

def isPowerOfTwo (n : Nat) : Bool :=
  1 <<< n.log2 = n

namespace ImageSpec

/-- What the first of some windows can show, at least `minimum`. -/
def reach (windows : List Window) (minimum : Nat) : Nat :=
  match windows.head? with
  | some window => Nat.max window.reach minimum
  | none => minimum

/-- Boards that were sold with CHR RAM. -/
def prefersChrRam : Board → Bool
  | .uxRom | .axRom | .bnRom | .action53 | .unrom512 => true
  | _ => false

/-- The largest image that the registers of a board can address. -/
def forBoard (board : Board) : ImageSpec where
  prgSize := reach board.descriptor.prgWindows 0x8000
  chrSize := reach board.descriptor.chrWindows 0x2000
  chrRam := prefersChrRam board

def withPrgKib (spec : ImageSpec) (kib : Nat) : Except CartridgeError ImageSpec :=
  match kibToBytes? kib with
  | some prgSize => .ok { spec with prgSize }
  | none => .error (.prgSize (sizeLimit - 1))

def withChrKib (spec : ImageSpec) (kib : Nat) : Except CartridgeError ImageSpec :=
  match kibToBytes? kib with
  | some chrSize => .ok { spec with chrSize }
  | none => .error (.chrSize (sizeLimit - 1))

/-- A size must be a power of two between the smallest chip made and the board's reach. -/
def sizeFits (size least most : Nat) : Bool :=
  least ≤ size && isPowerOfTwo size && size ≤ most

def validate (spec : ImageSpec) (board : Board) : Except CartridgeError Unit :=
  let limit := forBoard board
  if !sizeFits spec.prgSize 0x4000 limit.prgSize then .error (.prgSize spec.prgSize)
  else if !sizeFits spec.chrSize 0x2000 limit.chrSize then .error (.chrSize spec.chrSize)
  else .ok ()

/-- The pattern memory that an image gets. -/
def chr (spec : ImageSpec) : Chr :=
  if spec.chrRam then .ram spec.chrSize else .rom (taggedChr spec.chrSize)

/-- A cartridge with numbered pages, wired for vertical mirroring. The sizes are checked before
any memory is built. -/
def synthesize (spec : ImageSpec) (board : Board) : Except CartridgeError Cartridge := do
  spec.validate board
  return .ofParts board (taggedPrg spec.prgSize) spec.chr .vertical

end ImageSpec

end NesCartridge
