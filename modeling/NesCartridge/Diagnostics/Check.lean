/-
  NesCartridge.Diagnostics.Check

  The checks that a report tells apart, and sets of them with one bit each.
-/

namespace NesCartridge

inductive Check where
  | prgBanks
  | chrBanks
  | chrLatches
  | prgSize
  | wram
  | wramDisable
  | wramProtect
  | mirroring
  | irq
  /-- The controller refused a request that the board should support. -/
  | control
  deriving DecidableEq

namespace Check

/-- Every check, in the order of reports. -/
def all : List Check :=
  [prgBanks, chrBanks, chrLatches, prgSize, wram, wramDisable, wramProtect, mirroring, irq,
    control]

def label : Check → String
  | prgBanks => "PRG banks"
  | chrBanks => "CHR banks"
  | chrLatches => "CHR latches"
  | prgSize => "PRG size"
  | wram => "WRAM"
  | wramDisable => "WRAM disable"
  | wramProtect => "WRAM protect"
  | mirroring => "mirroring"
  | irq => "IRQ"
  | control => "control"

/-- The bit that stands for the check. -/
def bit : Check → UInt16
  | prgBanks => 0x001
  | chrBanks => 0x002
  | chrLatches => 0x004
  | prgSize => 0x008
  | wram => 0x010
  | wramDisable => 0x020
  | wramProtect => 0x040
  | mirroring => 0x080
  | irq => 0x100
  | control => 0x200

theorem mem_all (check : Check) : check ∈ all := by
  cases check <;> decide

end Check

/-! ## Sets of checks -/

/-- A set of checks, in bits. Bits that stand for no check are kept as they are. -/
structure CheckSet where
  bits : UInt16 := 0
  deriving DecidableEq

namespace CheckSet

def isEmpty (set : CheckSet) : Bool :=
  set.bits == 0

def contains (set : CheckSet) (check : Check) : Bool :=
  set.bits &&& check.bit == check.bit

def insert (set : CheckSet) (check : Check) : CheckSet :=
  ⟨set.bits ||| check.bit⟩

theorem insert_insert (set : CheckSet) (check : Check) :
    (set.insert check).insert check = set.insert check := by
  simp only [insert, UInt16.or_assoc, UInt16.or_self]

/-- Checks have bits apart from each other. -/
theorem contains_insert (set : CheckSet) (check other : Check) :
    (set.insert check).contains other = true ↔ set.contains other = true ∨ other = check := by
  have hdistrib : (set.bits ||| check.bit) &&& other.bit =
      (set.bits &&& other.bit) ||| (check.bit &&& other.bit) :=
    UInt16.toBitVec_inj.mp BitVec.and_or_distrib_right
  simp only [contains, insert, beq_iff_eq]
  by_cases hsame : other = check
  · subst hsame
    have hself : (set.bits ||| other.bit) &&& other.bit = other.bit := by
      apply UInt16.toBitVec_inj.mp
      ext i
      simpa using Or.inr
    exact iff_of_true hself (.inr rfl)
  · have hapart : check.bit &&& other.bit = 0 := by
      revert hsame
      cases check <;> cases other <;> decide
    rw [hdistrib, hapart, UInt16.or_zero, or_iff_left hsame]

/-- The checks in the set, in the order of reports. -/
def toList (set : CheckSet) : List Check :=
  Check.all.filter set.contains

/-- The set without the bits that stand for no check. -/
def known (set : CheckSet) : CheckSet :=
  ⟨set.bits &&& 0x3FF⟩

/-- The label of the one check that the bits stand for. -/
def name (set : CheckSet) : String :=
  match Check.all.find? (fun check => check.bit == set.bits) with
  | some check => check.label
  | none => "multiple"

end CheckSet

end NesCartridge
