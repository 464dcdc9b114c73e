/-
  NesCartridge.Chip.Target

  What an address leads to once a mapper chip has decoded it.
-/

namespace NesCartridge

/-- A bank of a memory, with the size that banks are counted in. -/
structure BankRef where
  bank : Nat
  size : Nat
  deriving DecidableEq

/-- Where a CPU access to the cartridge ends up. -/
inductive CpuTarget where
  /-- Nothing answers. -/
  | openBus
  /-- The work RAM, with or without its write line. -/
  | wram (writable : Bool)
  /-- A bank of the PRG memory. -/
  | prg (ref : BankRef)
  deriving DecidableEq

/-- What an unanswered read returns: the address byte that was last on the bus. -/
def openBus (addr : UInt16) : UInt8 :=
  UInt8.ofNat (addr.toNat / 256)

/-- Banks of `size` bytes in a memory of `length` bytes; a smaller memory counts as one. -/
def bankCount (length size : Nat) : Nat :=
  Nat.max (length / size) 1

theorem bankCount_pos (length size : Nat) : 0 < bankCount length size :=
  Nat.lt_of_lt_of_le Nat.zero_lt_one (Nat.le_max_right _ _)

/-- The address lies in the work RAM's range. -/
def inWram (addr : UInt16) : Bool :=
  0x6000 ≤ addr.toNat && addr.toNat < 0x8000

theorem inWram_iff {addr : UInt16} :
    inWram addr = true ↔ 0x6000 ≤ addr.toNat ∧ addr.toNat < 0x8000 := by
  simp only [inWram, Bool.and_eq_true, decide_eq_true_eq]

theorem le_of_inWram {addr : UInt16} (h : inWram addr = true) : 0x4020 ≤ addr.toNat :=
  Nat.le_trans (by decide) (inWram_iff.mp h).1

theorem inWram_of_le {addr : UInt16} (h : 0x8000 ≤ addr.toNat) : inWram addr = false := by
  simp only [inWram, Bool.and_eq_false_iff, decide_eq_false_iff_not]
  omega

end NesCartridge
