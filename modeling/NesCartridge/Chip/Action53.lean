/-
  NesCartridge.Chip.Action53

  Action 53: a multicart chip. An outer PRG bank chooses the game, and inner bank, mode and CHR
  registers let the game switch inside it. Writes to `$5000`–`$5FFF` select a register, writes
  from `$8000` up go to it.
-/
import NesCartridge.Chip.Target
import NesCartridge.Mirroring

namespace NesCartridge

structure Action53 where
  /-- Bits 7 and 0 of the last select write: `$00` CHR, `$01` inner, `$80` mode, `$81` outer. -/
  select : UInt8 := 0
  chr : UInt8 := 0
  inner : UInt8 := 0
  /-- Bits 0–1 mirroring, 2–3 PRG mode, 4–5 size of the outer bank. -/
  mode : UInt8 := 0
  /-- Outer bank in units of 32 KiB. The last one is mapped at power-on. -/
  outer : UInt8 := 0xFF
  deriving DecidableEq

namespace Action53

/-- Store into the selected register. -/
def load (chip : Action53) (data : UInt8) : Action53 :=
  if chip.select = 0x00 then { chip with chr := data &&& 0x03 }
  else if chip.select = 0x01 then { chip with inner := data &&& 0x0F }
  else if chip.select = 0x80 then { chip with mode := data &&& 0x3F }
  else { chip with outer := data }

/-- In the one-screen modes a CHR or inner write also chooses the screen, by bit 4. -/
def takeScreen (chip : Action53) (data : UInt8) : Action53 :=
  if chip.select &&& 0x80 == 0 && chip.mode &&& 0x02 == 0 then
    { chip with mode := UInt8.ofNat (chip.mode.toNat / 2 * 2 + data.toNat / 16 % 2) }
  else chip

def write (chip : Action53) (addr : UInt16) (data : UInt8) : Action53 :=
  if 0x5000 ≤ addr.toNat ∧ addr.toNat < 0x6000 then { chip with select := data &&& 0x81 }
  else if 0x8000 ≤ addr.toNat then (chip.load data).takeScreen data
  else chip

/-- Number of 16 KiB banks that the outer bank spans. -/
def outerSpan (chip : Action53) : Nat :=
  2 <<< (chip.mode.toNat / 16 % 4)

theorem outerSpan_pos (chip : Action53) : 0 < chip.outerSpan := by
  rw [outerSpan, Nat.shiftLeft_eq]
  exact Nat.mul_pos Nat.two_pos (Nat.two_pow_pos _)

/-- 16 KiB bank that the inner registers ask for, before it is confined to the outer bank. -/
def innerBank (chip : Action53) (addr : UInt16) : Nat :=
  let upper := addr.toNat / 0x4000 % 2 = 1
  match chip.mode.toNat / 4 % 4 with
  -- Fixed first bank, fixed last bank, or one 32 KiB bank.
  | 2 => if upper then chip.inner.toNat else 0
  | 3 => if upper then chip.outerSpan - 1 else chip.inner.toNat
  | _ => chip.inner.toNat * 2 + (if upper then 1 else 0)

/-- 16 KiB bank at a PRG address: the outer bank, rounded down to its span, and within it the
inner bank. -/
def prgBank (chip : Action53) (addr : UInt16) : Nat :=
  chip.outer.toNat * 2 / chip.outerSpan * chip.outerSpan
    + chip.innerBank addr % chip.outerSpan

def cpuTarget (chip : Action53) (addr : UInt16) : CpuTarget :=
  if 0x8000 ≤ addr.toNat then .prg ⟨chip.prgBank addr, 0x4000⟩ else .openBus

def mirroring (chip : Action53) : Mirroring :=
  match chip.mode.toNat % 4 with
  | 0 => .oneScreenLower
  | 1 => .oneScreenUpper
  | 2 => .vertical
  | _ => .horizontal

end Action53

end NesCartridge
