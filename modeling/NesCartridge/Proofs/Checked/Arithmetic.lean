/-
  NesCartridge.Proofs.Checked.Arithmetic

  Steps of fixed-width code that can fail: an index into an array, a subtraction, a remainder by a
  number that may be zero, a shift by a computed amount, and a sum or product that has to fit its
  integer type. A checked computation stops with a `Trap` at the first step that fails; whatever
  cannot fail is written in plain terms. Main statement: in a memory whose length is a number of 64
  bits every byte of every bank is found without a trap (`Memory.checkedBanked_eq`).
-/
import NesCartridge.Chip.Target
import NesCartridge.Memory.Chr

namespace NesCartridge

/-- What a checked computation stops at. -/
inductive Trap where
  /-- No such place in an array. -/
  | index (place length : Nat)
  /-- A number below zero. -/
  | belowZero (value less : Nat)
  /-- A number that its integer type does not hold. -/
  | tooLarge (value limit : Nat)
  | zeroDivisor
  /-- A shift by at least as many bits as there are. -/
  | shift (amount bits : Nat)
  deriving DecidableEq

/-- A computation that goes through or stops at a trap. -/
abbrev Checked := Except Trap

namespace Checked

variable {α β ε : Type}

/-! ## Steps -/

/-- A place in an array of `length` cells. -/
def index (place length : Nat) : Checked (Fin length) :=
  if h : place < length then .ok ⟨place, h⟩ else .error (.index place length)

/-- The cell of an array at a place. -/
def pick {length : Nat} (get : Fin length → α) (place : Nat) : Checked α :=
  return get (← index place length)

/-- The array with a value stored at a place. -/
def put {length : Nat} (cells : Vector α length) (place : Nat) (value : α) :
    Checked (Vector α length) := do
  let place ← index place length
  return cells.set place value place.isLt

/-- A number of an integer type whose values stay below `limit`. -/
def fit (limit value : Nat) : Checked Nat :=
  if value < limit then .ok value else .error (.tooLarge value limit)

def sub (value less : Nat) : Checked Nat :=
  if less ≤ value then .ok (value - less) else .error (.belowZero value less)

def div (value divisor : Nat) : Checked Nat :=
  if divisor = 0 then .error .zeroDivisor else .ok (value / divisor)

def mod (value divisor : Nat) : Checked Nat :=
  if divisor = 0 then .error .zeroDivisor else .ok (value % divisor)

/-- A shift of a number of `bits` bits; what it moves past the top is for the type to drop. -/
def shiftLeft (bits value amount : Nat) : Checked Nat :=
  if amount < bits then .ok (value <<< amount) else .error (.shift amount bits)

def shiftRight (bits value amount : Nat) : Checked Nat :=
  if amount < bits then .ok (value >>> amount) else .error (.shift amount bits)

/-! ## Steps that go through -/

@[simp] theorem ok_bind (value : α) (next : α → Checked β) :
    (Except.ok value >>= next : Checked β) = next value := rfl

@[simp] theorem pure_eq (value : α) : (pure value : Checked α) = .ok value := rfl

theorem index_eq {place length : Nat} (h : place < length) :
    index place length = .ok ⟨place, h⟩ := dif_pos h

theorem pick_eq {length : Nat} (get : Fin length → α) {place : Nat} (h : place < length) :
    pick get place = .ok (get ⟨place, h⟩) := by
  rw [pick, index_eq h]
  rfl

theorem put_eq {length : Nat} (cells : Vector α length) {place : Nat} (h : place < length)
    (value : α) : put cells place value = .ok (cells.set place value h) := by
  rw [put, index_eq h]
  rfl

theorem fit_eq {limit value : Nat} (h : value < limit) : fit limit value = .ok value := if_pos h

theorem sub_eq {value less : Nat} (h : less ≤ value) : sub value less = .ok (value - less) :=
  if_pos h

theorem div_eq {divisor : Nat} (h : 0 < divisor) (value : Nat) :
    div value divisor = .ok (value / divisor) := if_neg (Nat.ne_of_gt h)

theorem mod_eq {divisor : Nat} (h : 0 < divisor) (value : Nat) :
    mod value divisor = .ok (value % divisor) := if_neg (Nat.ne_of_gt h)

theorem shiftLeft_eq {bits amount : Nat} (h : amount < bits) (value : Nat) :
    shiftLeft bits value amount = .ok (value <<< amount) := if_pos h

/-- A sum that fits has parts that fit. -/
theorem fit_add_eq {limit value more : Nat} (h : value + more < limit) :
    (do fit limit ((← fit limit value) + more)) = .ok (value + more) := by
  rw [fit_eq (Nat.lt_of_le_of_lt (Nat.le_add_right value more) h), ok_bind, fit_eq h]

/-- A loop whose steps go through does what the plain loop does. An invariant may say why they
do. -/
theorem foldlM_eq {σ : Type} {checked : σ → α → Checked σ} {step : σ → α → σ} {Inv : σ → Prop}
    {items : List α}
    (hstep : ∀ state, Inv state → ∀ item ∈ items,
      checked state item = .ok (step state item) ∧ Inv (step state item))
    {state : σ} (h : Inv state) :
    items.foldlM checked state = .ok (items.foldl step state) ∧ Inv (items.foldl step state) := by
  induction items generalizing state with
  | nil => exact ⟨rfl, h⟩
  | cons item rest ih =>
    obtain ⟨hfirst, hnext⟩ := hstep state h item (List.mem_cons_self ..)
    rw [List.foldlM_cons, hfirst, ok_bind, List.foldl_cons]
    exact ih (fun state h item hmem => hstep state h item (List.mem_cons_of_mem _ hmem)) hnext

/-! ## Attempts -/

/-- A checked computation that may also be refused. -/
abbrev Attempt (ε : Type) := ExceptT ε Checked

/-- The outcome is known and nothing trapped on the way to it. -/
def settled (outcome : Except ε α) : Attempt ε α := ExceptT.mk (.ok outcome)

@[simp] theorem settled_ok_bind (value : α) (next : α → Attempt ε β) :
    (settled (.ok value) >>= next) = next value := rfl

theorem run_settled (outcome : Except ε α) : (settled outcome).run = .ok outcome := rfl

/-- A subtraction of more than there is stops. -/
example : (do fit 256 ((← sub 3 4) + 1) : Checked Nat) = .error (.belowZero 3 4) := rfl

end Checked

open Checked

/-! ## Banks -/

theorem bankCount_le (length size : Nat) : bankCount length size ≤ length + 1 :=
  Nat.max_le.mpr ⟨Nat.le_succ_of_le (Nat.div_le_self _ _), Nat.le_add_left 1 length⟩

/-- The last bank of a memory. -/
def checkedLastBank (length size : Nat) : Checked Nat :=
  sub (bankCount length size) 1

theorem checkedLastBank_eq (length size : Nat) :
    checkedLastBank length size = .ok (bankCount length size - 1) :=
  sub_eq (bankCount_pos length size)

/-- The cell behind a byte of a bank, in numbers of 64 bits. -/
def checkedBankedIndex (length bank size offset : Nat) : Checked Nat := do
  let count := Nat.max (← div length size) 1
  let start ← fit sizeLimit ((← mod bank count) * size)
  let place ← fit sizeLimit (start + (← mod offset size))
  mod place length

/-- The banks counted lie inside the memory, or there is one bank and it starts at zero. -/
theorem banked_start_lt (length bank offset : Nat) {size : Nat} (hsize : 0 < size) :
    bank % Nat.max (length / size) 1 * size + offset % size < Nat.max length size := by
  have hoffset : offset % size < size := Nat.mod_lt _ hsize
  have hbank : bank % Nat.max (length / size) 1 < Nat.max (length / size) 1 :=
    Nat.mod_lt _ (Nat.lt_of_lt_of_le Nat.one_pos (Nat.le_max_right _ _))
  have hlast : bank % Nat.max (length / size) 1 * size + size ≤
      Nat.max (length / size) 1 * size := by
    rw [← Nat.succ_mul]
    exact Nat.mul_le_mul_right size hbank
  have hend : Nat.max (length / size) 1 * size ≤ Nat.max length size := by
    rcases Nat.le_total (length / size) 1 with hle | hle
    · rw [show Nat.max (length / size) 1 = 1 from Nat.max_eq_right hle, Nat.one_mul]
      exact Nat.le_max_right length size
    · rw [show Nat.max (length / size) 1 = length / size from Nat.max_eq_left hle]
      exact Nat.le_trans (Nat.div_mul_le_self length size) (Nat.le_max_left length size)
  omega

theorem checkedBankedIndex_eq {length size : Nat} (hlength : 0 < length)
    (hlimit : length < sizeLimit) (hsize : 0 < size) (hsizeLimit : size < sizeLimit)
    (bank offset : Nat) :
    checkedBankedIndex length bank size offset = .ok (bankedIndex length bank size offset) := by
  have hcount : 0 < Nat.max (length / size) 1 :=
    Nat.lt_of_lt_of_le Nat.one_pos (Nat.le_max_right _ _)
  have hmax : Nat.max length size < sizeLimit := Nat.max_lt.mpr ⟨hlimit, hsizeLimit⟩
  have hplace := Nat.lt_trans (banked_start_lt length bank offset hsize) hmax
  have hstart := Nat.lt_of_le_of_lt (Nat.le_add_right _ _) hplace
  simp only [checkedBankedIndex, div_eq hsize, mod_eq hcount, mod_eq hsize, mod_eq hlength,
    fit_eq hstart, fit_eq hplace, ok_bind, bankedIndex]

namespace Memory

/-- The byte at a place that the memory has. -/
def cell (mem : Memory) (place : Fin mem.size) : UInt8 :=
  getElem mem place.val place.isLt

def checkedBanked (mem : Memory) (bank size offset : Nat) : Checked UInt8 :=
  if mem.size = 0 then return 0
  else do pick mem.cell (← checkedBankedIndex mem.size bank size offset)

/-- The memory with a byte stored at a place. -/
def checkedSet (mem : Memory) (place : Nat) (value : UInt8) : Checked Memory := do
  let place ← index place mem.size
  return mem.set place value place.isLt

/-- The store itself looks at the place once more, and changes nothing where there is none. -/
def checkedSetBanked (mem : Memory) (bank size offset : Nat) (value : UInt8) : Checked Memory :=
  if mem.size = 0 then return mem
  else return mem.setIfInBounds (← checkedBankedIndex mem.size bank size offset) value

variable {mem : Memory} {size : Nat}

theorem checkedSet_eq {place : Nat} (h : place < mem.size) (value : UInt8) :
    mem.checkedSet place value = .ok (mem.set place value h) := by
  rw [checkedSet, index_eq h]
  rfl

theorem checkedBanked_eq (hlimit : mem.size < sizeLimit) (hsize : 0 < size)
    (hsizeLimit : size < sizeLimit) (bank offset : Nat) :
    mem.checkedBanked bank size offset = .ok (mem.banked bank size offset) := by
  rw [checkedBanked, banked]
  split
  next hempty => rw [dif_neg (by omega)]; rfl
  next hne =>
    have hpos : 0 < mem.size := Nat.pos_of_ne_zero hne
    have hlt := bankedIndex_lt hpos bank size offset
    rw [dif_pos hpos, checkedBankedIndex_eq hpos hlimit hsize hsizeLimit, ok_bind, pick_eq _ hlt]
    rfl

theorem checkedSetBanked_eq (hlimit : mem.size < sizeLimit) (hsize : 0 < size)
    (hsizeLimit : size < sizeLimit) (bank offset : Nat) (value : UInt8) :
    mem.checkedSetBanked bank size offset value = .ok (mem.setBanked bank size offset value) := by
  rw [checkedSetBanked, setBanked]
  split
  next hempty => rw [dif_neg (by omega)]; rfl
  next hne =>
    have hpos : 0 < mem.size := Nat.pos_of_ne_zero hne
    have hlt := bankedIndex_lt hpos bank size offset
    rw [dif_pos hpos, checkedBankedIndex_eq hpos hlimit hsize hsizeLimit, ok_bind,
      Array.setIfInBounds, dif_pos hlt]
    rfl

end Memory

namespace Chr

def checkedWrite (chr : Chr) (bank size offset : Nat) (value : UInt8) : Checked Chr := do
  if !chr.writable then return chr
  else return { chr with cells := ← chr.cells.checkedSetBanked bank size offset value }

theorem checkedWrite_eq {chr : Chr} {size : Nat} (hlimit : chr.cells.size < sizeLimit)
    (hsize : 0 < size) (hsizeLimit : size < sizeLimit) (bank offset : Nat) (value : UInt8) :
    chr.checkedWrite bank size offset value = .ok (chr.write bank size offset value) := by
  rw [checkedWrite, write, Memory.checkedSetBanked_eq hlimit hsize hsizeLimit]
  cases chr.writable <;> rfl

end Chr

end NesCartridge
