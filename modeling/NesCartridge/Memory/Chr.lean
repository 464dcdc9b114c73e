/-
  NesCartridge.Memory.Chr

  Pattern table memory: CHR ROM, or CHR RAM on boards without a ROM.
-/
import NesCartridge.Memory.Banked

namespace NesCartridge

/-- Pattern table memory. -/
structure Chr where
  cells : Memory
  writable : Bool

namespace Chr

def rom (cells : Memory) : Chr := { cells, writable := false }

/-- RAM of `size` bytes, cleared. -/
def ram (size : Nat) : Chr := { cells := Array.replicate size 0, writable := true }

def read (chr : Chr) (bank size offset : Nat) : UInt8 :=
  chr.cells.banked bank size offset

/-- A write to ROM changes nothing. -/
def write (chr : Chr) (bank size offset : Nat) (value : UInt8) : Chr :=
  if chr.writable then { chr with cells := chr.cells.setBanked bank size offset value } else chr

@[simp] theorem size_write (chr : Chr) (bank size offset : Nat) (value : UInt8) :
    (chr.write bank size offset value).cells.size = chr.cells.size := by
  unfold write
  split <;> simp

@[simp] theorem writable_write (chr : Chr) (bank size offset : Nat) (value : UInt8) :
    (chr.write bank size offset value).writable = chr.writable := by
  unfold write
  split <;> rfl

theorem write_of_not_writable {chr : Chr} (h : chr.writable = false)
    (bank size offset : Nat) (value : UInt8) : chr.write bank size offset value = chr := by
  simp [write, h]

end Chr

end NesCartridge
