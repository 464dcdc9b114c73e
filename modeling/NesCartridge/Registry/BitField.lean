/-
  NesCartridge.Registry.BitField

  Bit fields of the one latch that discrete boards have. A field is given by its mask; the
  value it holds is read and written shifted down to bit 0.
-/

namespace NesCartridge

/-- A group of bits of a latch byte. -/
structure BitField where
  mask : UInt8
  deriving DecidableEq

namespace BitField

/-- A latch without such bits. -/
def absent : BitField := ⟨0⟩

def isPresent (field : BitField) : Bool :=
  field.mask != 0

/-- Position of the lowest bit of the field, 8 when it has none. -/
def shift (field : BitField) : Nat :=
  ((List.range 8).find? field.mask.toNat.testBit).getD 8

/-- Largest value that fits a contiguous field. -/
def max (field : BitField) : UInt8 :=
  UInt8.ofNat (field.mask.toNat >>> field.shift)

/-- Put `value` into the field and keep the other bits of the latch. -/
def insert (field : BitField) (latch value : UInt8) : UInt8 :=
  (latch &&& ~~~field.mask) ||| (UInt8.ofNat (value.toNat <<< field.shift) &&& field.mask)

/-- The value held by the field. -/
def extract (field : BitField) (latch : UInt8) : UInt8 :=
  UInt8.ofNat ((latch &&& field.mask).toNat >>> field.shift)

end BitField

/-- The fields of a discrete board's latch. -/
structure LatchLayout where
  prg : BitField := .absent
  chr : BitField := .absent
  /-- Chooses the one-screen nametable; set means the upper one. -/
  screen : BitField := .absent
  deriving DecidableEq

end NesCartridge
