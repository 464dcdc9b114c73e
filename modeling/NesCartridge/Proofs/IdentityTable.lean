/-
  NesCartridge.Proofs.IdentityTable

  Latch writes on boards where the ROM drives the data lines too. In an image with numbered pages
  every byte is known from its place (`taggedByte`), also in a last page that is cut short, and the
  end of the upper half of the address space shows an identity table through every bank. A byte
  that is written to its own place in that table is therefore stored as it is, from any state and
  through any number of such writes. Main statement: `identity_table_defeats_conflicts`.
-/
import NesCartridge.Proofs.OnBoard
import NesCartridge.Proofs.TaggedImage

namespace NesCartridge

/-! ## The image byte by byte -/

/-- The byte at a place of an image with numbered pages. -/
def taggedByte (place : Nat) : Nat :=
  if place % 0x2000 = 0 then place / 0x2000 % 256
  else if 0x1F00 ≤ place % 0x2000 then place % 256
  else 0xFF

theorem toNat_getElem?_taggedPrg {size place : Nat} (h : place < size) :
    (taggedPrg size)[place]?.map UInt8.toNat = some (taggedByte place) := by
  have hpage : prgPageSize = 0x2000 := rfl
  have htable : identityOffset = 0x1F00 := rfl
  have hoffset : place % prgPageSize < prgPageSize := Nat.mod_lt _ (by decide)
  rw [getElem?_taggedPrg h, getElem?_prgPage _ hoffset, Option.map_some, hpage, htable, taggedByte]
  by_cases hzero : place % 0x2000 = 0
  · rw [if_pos hzero, if_pos hzero, UInt8.toNat_ofNat']
  · rw [if_neg hzero, if_neg hzero]
    by_cases hinside : 0x1F00 ≤ place % 0x2000
    · -- Pages and the start of the table are multiples of 256.
      have hbyte : (place % 0x2000 - 0x1F00) % 2 ^ 8 = place % 256 := by omega
      rw [if_pos hinside, if_pos hinside, UInt8.toNat_ofNat', hbyte]
    · rw [if_neg hinside, if_neg hinside]
      rfl

/-! ## The latch -/

/-- The byte in the latch, on discrete boards. -/
def Chip.latchByte? : Chip → Option UInt8
  | .discrete c => some c.latch
  | _ => none

/-- A byte on its way to its own place in the identity table. -/
def tableWrite (value : UInt8) : RegisterWrite :=
  ⟨Address.identityTable + value.toUInt16, value⟩

/-- With bus conflicts the controller writes the latch in no other way. -/
theorem latchWrites_of_conflicts {desc : Descriptor} (h : desc.busConflicts = true)
    (value : UInt8) : latchWrites desc value = [tableWrite value] :=
  if_pos h

namespace Console

/-- The latch after each of some bytes has been written to its own place in the identity table. -/
def latchesAfter (console : Console) : List UInt8 → List (Option UInt8)
  | [] => []
  | value :: rest =>
    let written := console.writeCpu (tableWrite value).addr (tableWrite value).data
    written.chip.latchByte? :: written.latchesAfter rest

/-- The cartridge is of the board, and its PRG memory is made of pages that end with an identity
table. -/
structure HasTables (board : Board) (solder : Mirroring) (console : Console) : Prop where
  wired : console.chip.Wired board solder
  pos : 0 < console.cart.hardware.prg.size
  pages : 0x2000 ∣ console.cart.hardware.prg.size
  tables : console.cart.hardware.prg.HasIdentityTables

namespace HasTables

variable {board : Board} {solder : Mirroring} {console : Console}

theorem of_sameCart (h : console.HasTables board solder) {after : Console}
    (hcart : console.SameCart after) : after.HasTables board solder where
  wired := hcart.wired h.wired
  pos := hcart.prg.symm ▸ h.pos
  pages := hcart.prg.symm ▸ h.pages
  tables := hcart.prg.symm ▸ h.tables

/-- One write stores its byte, whatever the latch held before. -/
theorem latchByte?_writeCpu (h : console.HasTables board solder)
    (hconflicts : board.descriptor.busConflicts = true) (value : UInt8) :
    (console.writeCpu (tableWrite value).addr (tableWrite value).data).chip.latchByte? =
      some value := by
  have haddr := toNat_identityTable value
  have hupper : 0x8000 ≤ (tableWrite value).addr.toNat := by
    show 0x8000 ≤ (Address.identityTable + value.toUInt16).toNat
    omega
  have hread := Hardware.readCpu_identityTable h.wired hconflicts h.pos h.pages h.tables value
  rw [console.writeCpu_of_outside (by omega) (inWram_of_le hupper), h.wired.busConflicts_eq,
    hconflicts, if_pos rfl]
  show (console.chip.write (tableWrite value).addr
    (value &&& console.cart.hardware.readCpu (tableWrite value).addr)).latchByte? = some value
  rw [tableWrite, hread, UInt8.and_self]
  have hwired := h.wired
  generalize console.chip = chip at hwired
  cases hwired with
  | discrete hlayout =>
    have hstored (c : Discrete) :
        c.write (tableWrite value).addr value = { c with latch := value } := if_pos hupper
    exact congrArg (fun c => (Chip.discrete c).latchByte?) (hstored _)
  | _ => cases hconflicts

theorem latchesAfter_eq (h : console.HasTables board solder)
    (hconflicts : board.descriptor.busConflicts = true) (values : List UInt8) :
    console.latchesAfter values = values.map some := by
  -- After each write the same tables are mapped, so the next one meets what the first one met.
  induction values generalizing console with
  | nil => rfl
  | cons value rest ih =>
    have hnext := h.of_sameCart
      (console.sameCart_writeCpu (tableWrite value).addr (tableWrite value).data)
    rw [latchesAfter, h.latchByte?_writeCpu hconflicts, ih hnext, List.map_cons]

end HasTables

end Console

/-- A cartridge with a tagged image of whole pages keeps its tables through every run. -/
theorem OnBoard.hasTables {board : Board} {pages : Nat} {chr : Chr} {solder : Mirroring}
    {session : Session Console} (h : OnBoard board (taggedPrg (0x2000 * pages)) chr solder session)
    (hpages : 0 < pages) : session.bus.HasTables board solder where
  wired := h.wired
  pos := by
    rw [h.prg_eq, size_taggedPrg]
    omega
  pages := by
    rw [h.prg_eq, size_taggedPrg]
    exact Nat.dvd_mul_right ..
  tables := by
    rw [h.prg_eq]
    exact hasIdentityTables_taggedPrg _

/-- An image of any size is known byte by byte. On a board with bus conflicts, with an image of any
number of whole pages and after any run, raw register writes included, a byte that is written to
`$FF00` plus its value is what the latch then holds, again and again; and these are the latch
writes that the controller makes. -/
theorem identity_table_defeats_conflicts :
    (∀ size, (taggedPrg size).size = size ∧ ∀ place < size,
      (taggedPrg size)[place]?.map UInt8.toNat = some (taggedByte place)) ∧
    ∀ board pages chr solder (script : Script Action),
      board.descriptor.busConflicts = true → 0 < pages →
        let cart := Cartridge.ofParts board (taggedPrg (0x2000 * pages)) chr solder
        let ran := (script.run Action.perform (.start board (.powerOn cart))).2
        (∀ values, ran.bus.latchesAfter values = values.map some) ∧
          ∀ value, latchWrites board.descriptor value = [tableWrite value] := by
  refine ⟨fun size => ⟨size_taggedPrg size, fun place hplace => toNat_getElem?_taggedPrg hplace⟩,
    fun board pages chr solder script hconflicts hpages => ?_⟩
  intro cart ran
  have hstart := OnBoard.powerOn board cart.header (taggedPrg (0x2000 * pages)) chr solder
  have htables := (hstart.run script).hasTables hpages
  exact ⟨htables.latchesAfter_eq hconflicts, latchWrites_of_conflicts hconflicts⟩

/-- In three pages behind a window of four, after a latch write that the ROM has changed; and in a
third page that is cut short inside its table. -/
theorem identity_table_defeats_conflicts_gnRom :
    (taggedPrg 0x5F80)[0x5F42]?.map UInt8.toNat = some 0x42 ∧
      let script : Script Action :=
        .act (.writeCpu 0x8000 0xFF) (.act (.writeCpu 0xFF31 0xFE) (.act (.writePpu 0 9) .done))
      let cart := Cartridge.ofParts .gnRom (taggedPrg (0x2000 * 3)) (.ram 0x8000) .vertical
      let ran := (script.run Action.perform (.start .gnRom (.powerOn cart))).2
      ran.bus.latchesAfter [0x00, 0xFF, 0x31] = [some 0x00, some 0xFF, some 0x31] := by
  obtain ⟨himage, hlatch⟩ := identity_table_defeats_conflicts
  refine ⟨(himage 0x5F80).2 0x5F42 (by decide), ?_⟩
  intro script cart ran
  exact (hlatch .gnRom 3 (.ram 0x8000) .vertical script rfl (by decide)).1 [0x00, 0xFF, 0x31]

end NesCartridge
