/-
  NesCartridge.Proofs.Chip.Holds

  The chip of any board agrees with the controller's shadow. Bringing the board up makes it so
  from any state (`Wired.holds_bringUp`), every accepted request keeps it so for the next shadow
  (`Wired.holds_answers`), and fetches and clock cycles do not disturb it.
-/
import NesCartridge.Proofs.Chip.Action53
import NesCartridge.Proofs.Chip.Discrete
import NesCartridge.Proofs.Chip.Fme7
import NesCartridge.Proofs.Chip.Mmc1
import NesCartridge.Proofs.Chip.Mmc2
import NesCartridge.Proofs.Chip.Mmc3

namespace NesCartridge

namespace Chip

/-- The registers of the chip hold what the shadow says. -/
def Holds (chip : Chip) (shadow : Shadow) : Prop :=
  match chip with
  | .nrom _ => True
  | .mmc1 c => c.Holds shadow
  | .mmc2 c => c.Holds shadow
  | .mmc3 c => c.Holds shadow
  | .action53 c => c.Holds shadow
  | .fme7 c => c.Holds shadow
  | .discrete c => c.Holds shadow

/-- A chip of one kind holds what its registers hold. -/
theorem holds_of_eq {α : Type} {make : α → Chip} {P : α → Prop} {chip : Chip} {shadow : Shadow}
    (h : ∃ next, chip = make next ∧ P next) (hmake : ∀ c, P c → (make c).Holds shadow) :
    chip.Holds shadow := by
  obtain ⟨next, rfl, hnext⟩ := h
  exact hmake next hnext

namespace Wired

variable {board : Board} {solder : Mirroring} {chip : Chip} {shadow after : Shadow}

/-- Bringing the board up leaves no trace of what the registers held before. -/
theorem holds_bringUp (h : chip.Wired board solder) :
    (chip.writeAll board.bringUpWrites).Holds (.atBringUp board) := by
  cases h with
  | nrom => exact trivial
  | mmc1 => exact holds_of_eq (Mmc1.holds_bringUp _) fun _ => id
  | mmc2 | mmc4 => exact holds_of_eq (Mmc2.holds_bringUp rfl _) fun _ => id
  | mmc3 => exact holds_of_eq (Mmc3.holds_bringUp _) fun _ => id
  | action53 => exact holds_of_eq (Action53.holds_bringUp _) fun _ => id
  | fme7 => exact holds_of_eq (Fme7.holds_bringUp _) fun _ => id
  | discrete hlayout =>
    have hans : board.Answers (.atBringUp board) .bringUp _ _ := .bringUp
    exact holds_of_eq (Discrete.Holds.answers hlayout rfl hans) fun _ hnext => hnext.2

/-- After an accepted request the registers hold the new shadow. -/
theorem holds_answers (h : chip.Wired board solder) (hholds : chip.Holds shadow)
    (hfits : shadow.Fits board) {req : Request} {writes : List RegisterWrite}
    (hans : board.Answers shadow req after writes) : (chip.writeAll writes).Holds after := by
  cases h with
  | nrom =>
    -- No write turns the chip into one that has registers.
    have hnext : ((Chip.nrom solder).writeAll writes).Wired .nrom solder :=
      Wired.nrom.writeAll writes
    generalize (Chip.nrom solder).writeAll writes = next at hnext
    cases hnext with
    | nrom => exact trivial
    | discrete hlayout => cases hlayout
  | mmc1 => exact holds_of_eq (Mmc1.Holds.answers hholds hfits hans) fun _ => id
  | mmc2 | mmc4 => exact holds_of_eq (Mmc2.Holds.answers rfl hholds hfits hans) fun _ => id
  | mmc3 => exact holds_of_eq (Mmc3.Holds.answers hholds hfits hans) fun _ => id
  | action53 => exact holds_of_eq (Action53.Holds.answers hholds hfits hans) fun _ => id
  | fme7 => exact holds_of_eq (Fme7.Holds.answers hholds hfits hans) fun _ => id
  | discrete hlayout =>
    exact holds_of_eq (Discrete.Holds.answers hlayout rfl hans) fun _ hnext => hnext.2

end Wired

variable {chip : Chip} {shadow : Shadow}

theorem Holds.fetched (h : chip.Holds shadow) (addr : UInt16) :
    (chip.fetched addr).Holds shadow := by
  cases chip with
  | mmc2 c => exact Mmc2.Holds.fetched h addr
  | mmc3 c => exact Mmc3.Holds.fetched h addr
  | nrom | mmc1 | action53 | fme7 | discrete => exact h

/-- The select register is apart from everything that the shadow speaks of. -/
theorem Holds.withSelect (h : chip.Holds shadow) (byte : UInt8) :
    (chip.withSelect byte).Holds shadow := by
  cases chip with
  | mmc3 c =>
    have hchip : c.Holds shadow := h
    exact Mmc3.Holds.mk hchip.banks hchip.mirroring hchip.wramEnabled hchip.wramProtected
  | action53 c =>
    have hchip : c.Holds shadow := h
    exact Action53.Holds.mk hchip.chr hchip.inner hchip.mode hchip.outer
  | fme7 c =>
    have hchip : c.Holds shadow := h
    exact Fme7.Holds.mk hchip.chr hchip.prg hchip.low hchip.nametables
  | nrom | mmc1 | mmc2 | discrete => exact h

theorem Holds.clock (h : chip.Holds shadow) : chip.clock.Holds shadow := by
  cases chip with
  | fme7 c => exact Fme7.Holds.clock h
  | nrom | mmc1 | mmc2 | mmc3 | action53 | discrete => exact h

end Chip

end NesCartridge
