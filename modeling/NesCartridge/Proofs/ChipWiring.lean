/-
  NesCartridge.Proofs.ChipWiring

  The chip that belongs to a board, and how the controller's writes reach it. A board never
  changes its kind of chip (`Chip.Wired`), and a run of writes that the board lists changes the
  chip alone, each write arriving there as it was sent (`Console.writeAll_eq`). On boards with bus
  conflicts this needs a PRG memory with identity tables.
-/
import NesCartridge.Console
import NesCartridge.Proofs.BankedIndex
import NesCartridge.Proofs.RegisterWrites

namespace NesCartridge

/-- Bytes of work RAM on a board, by the registry. -/
def Board.wramSize (board : Board) : Nat :=
  if board.descriptor.hasWram then 0x2000 else 0

theorem wramPlace_eq {addr : UInt16} (h : inWram addr = true) :
    wramPlace addr = addr.toNat - 0x6000 :=
  UInt16.toNat_sub_of_le _ _ (inWram_iff.mp h).1

theorem wramPlace_lt_of_inWram {addr : UInt16} (h : inWram addr = true) :
    wramPlace addr < 0x2000 := by
  obtain ⟨hle, hlt⟩ := inWram_iff.mp h
  rw [wramPlace_eq h]
  omega

namespace Chip

/-- The chip is of the kind that the board carries, wired as the registry says. -/
inductive Wired : Board → Mirroring → Chip → Prop where
  | nrom {solder : Mirroring} : Wired .nrom solder (.nrom solder)
  | mmc1 {solder : Mirroring} {c : Mmc1} : Wired .mmc1 solder (.mmc1 c)
  | mmc2 {solder : Mirroring} {c : Mmc2} (h : c.isMmc4 = false) : Wired .mmc2 solder (.mmc2 c)
  | mmc4 {solder : Mirroring} {c : Mmc2} (h : c.isMmc4 = true) : Wired .mmc4 solder (.mmc2 c)
  | mmc3 {solder : Mirroring} {c : Mmc3} : Wired .mmc3 solder (.mmc3 c)
  | action53 {solder : Mirroring} {c : Action53} : Wired .action53 solder (.action53 c)
  | fme7 {solder : Mirroring} {c : Fme7} : Wired .fme7 solder (.fme7 c)
  | discrete {board : Board} {solder : Mirroring} {layout : LatchLayout} {latch : UInt8}
      (hlayout : board.descriptor.latch = some layout) :
      Wired board solder (.discrete
        { layout
          busConflicts := board.descriptor.busConflicts
          prg16k := board.descriptor.prgWindows.head?.any (·.size = 0x4000)
          solder
          latch })

/-- Byte in the select register of the chip, where it has one. -/
def select? : Chip → Option UInt8
  | .mmc3 c => some c.bankSelect
  | .action53 c => some c.select
  | .fme7 c => some c.command
  | _ => none

/-- The select register names a register of the board. -/
def SelectsOn (chip : Chip) (board : Board) : Prop :=
  ∀ byte, chip.select? = some byte → board.IsSelect byte

/-- The chip with another byte in its select register, where it has one. -/
def withSelect (chip : Chip) (byte : UInt8) : Chip :=
  match chip with
  | .mmc3 c => .mmc3 { c with bankSelect := byte }
  | .action53 c => .action53 { c with select := byte }
  | .fme7 c => .fme7 { c with command := byte }
  | other => other

/-- The chip after some writes. -/
def writeAll (chip : Chip) (writes : List RegisterWrite) : Chip :=
  writes.foldl (fun chip w => chip.write w.addr w.data) chip

@[simp] theorem writeAll_nil (chip : Chip) : chip.writeAll [] = chip := rfl

@[simp] theorem writeAll_cons (chip : Chip) (w : RegisterWrite) (rest : List RegisterWrite) :
    chip.writeAll (w :: rest) = (chip.write w.addr w.data).writeAll rest := rfl

theorem writeAll_append (chip : Chip) (xs ys : List RegisterWrite) :
    chip.writeAll (xs ++ ys) = (chip.writeAll xs).writeAll ys := by
  simp [writeAll, List.foldl_append]

/-! ## The kind of a chip never changes -/

theorem wired_powerOn (board : Board) (solder : Mirroring) :
    (powerOn board solder).Wired board solder := by
  cases board with
  | nrom => exact .nrom
  | mmc1 => exact .mmc1
  | mmc2 => exact .mmc2 rfl
  | mmc4 => exact .mmc4 rfl
  | mmc3 => exact .mmc3
  | action53 => exact .action53
  | fme7 => exact .fme7
  | uxRom | cnRom | axRom | colorDreams | unrom512 | bnRom | gnRom => exact .discrete rfl

theorem isMmc4_write (c : Mmc2) (addr : UInt16) (data : UInt8) :
    (c.write addr data).isMmc4 = c.isMmc4 := by
  unfold Mmc2.write
  split <;> rfl

theorem isMmc4_fetched (c : Mmc2) (addr : UInt16) : (c.fetched addr).isMmc4 = c.isMmc4 := by
  unfold Mmc2.fetched
  dsimp only
  split <;> rfl

namespace Wired

variable {board : Board} {solder : Mirroring} {chip : Chip}

theorem write (h : chip.Wired board solder) (addr : UInt16) (data : UInt8) :
    (chip.write addr data).Wired board solder := by
  cases h with
  | nrom => exact .nrom
  | mmc1 => exact .mmc1
  | mmc2 h => exact .mmc2 ((isMmc4_write _ addr data).trans h)
  | mmc4 h => exact .mmc4 ((isMmc4_write _ addr data).trans h)
  | mmc3 => exact .mmc3
  | action53 => exact .action53
  | fme7 => exact .fme7
  | discrete hlayout =>
    simp only [Chip.write, Discrete.write]
    split <;> exact .discrete hlayout

theorem writeAll (h : chip.Wired board solder) (writes : List RegisterWrite) :
    (chip.writeAll writes).Wired board solder := by
  induction writes generalizing chip with
  | nil => exact h
  | cons w rest ih => exact ih (h.write w.addr w.data)

theorem fetched (h : chip.Wired board solder) (addr : UInt16) :
    (chip.fetched addr).Wired board solder := by
  cases h with
  | nrom => exact .nrom
  | mmc1 => exact .mmc1
  | mmc2 h => exact .mmc2 ((isMmc4_fetched _ addr).trans h)
  | mmc4 h => exact .mmc4 ((isMmc4_fetched _ addr).trans h)
  | mmc3 => exact .mmc3
  | action53 => exact .action53
  | fme7 => exact .fme7
  | discrete hlayout => exact .discrete hlayout

theorem clock (h : chip.Wired board solder) : chip.clock.Wired board solder := by
  cases h with
  | nrom => exact .nrom
  | mmc1 => exact .mmc1
  | mmc2 h => exact .mmc2 h
  | mmc4 h => exact .mmc4 h
  | mmc3 => exact .mmc3
  | action53 => exact .action53
  | fme7 => exact .fme7
  | discrete hlayout => exact .discrete hlayout

theorem busConflicts_eq (h : chip.Wired board solder) :
    chip.busConflicts = board.descriptor.busConflicts := by
  cases h <;> rfl

end Wired

/-! ## The work RAM -/

/-- Chips put the work RAM into its own range and nowhere else. -/
theorem inWram_of_wram (chip : Chip) {prgSize wramSize : Nat} {addr : UInt16} {writable : Bool}
    (h : chip.cpuTarget prgSize wramSize addr = .wram writable) : inWram addr = true := by
  cases hin : inWram addr with
  | true => rfl
  | false =>
    -- Outside that range every branch ends at PRG memory or at nothing.
    cases chip
    all_goals
      simp only [cpuTarget, Mmc1.cpuTarget, Mmc2.cpuTarget, Mmc3.cpuTarget, Action53.cpuTarget,
        Fme7.cpuTarget, Discrete.cpuTarget, hin, Bool.false_eq_true, if_false] at h
      repeat' split at h
    all_goals cases h

/-- Where the work RAM answers it has the place. -/
theorem wramPlace_lt (chip : Chip) {prgSize : Nat} {addr : UInt16} {writable : Bool}
    (h : chip.cpuTarget prgSize chip.wramSize addr = .wram writable) :
    wramPlace addr < chip.wramSize := by
  have hin := chip.inWram_of_wram h
  have hplace : wramPlace addr < 0x2000 := wramPlace_lt_of_inWram hin
  cases chip with
  | mmc1 | mmc3 | fme7 => exact hplace
  | mmc2 c =>
    -- Without work RAM the range answers nothing.
    cases hkind : c.isMmc4 with
    | true => simpa only [wramSize, hkind, if_true] using hplace
    | false =>
      rw [cpuTarget, Mmc2.cpuTarget, hin, if_pos rfl, wramSize, hkind] at h
      cases h
  | nrom =>
    rw [cpuTarget] at h
    split at h <;> cases h
  | action53 c =>
    rw [cpuTarget, Action53.cpuTarget] at h
    split at h <;> cases h
  | discrete c =>
    rw [cpuTarget, Discrete.cpuTarget] at h
    split at h <;> cases h

theorem wramSize_write (chip : Chip) (addr : UInt16) (data : UInt8) :
    (chip.write addr data).wramSize = chip.wramSize := by
  cases chip with
  | mmc2 c => rw [write, wramSize, wramSize, isMmc4_write]
  | nrom | mmc1 | mmc3 | action53 | fme7 | discrete => rfl

theorem wramSize_fetched (chip : Chip) (addr : UInt16) :
    (chip.fetched addr).wramSize = chip.wramSize := by
  cases chip with
  | mmc2 c => rw [fetched, wramSize, wramSize, isMmc4_fetched]
  | nrom | mmc1 | mmc3 | action53 | fme7 | discrete => rfl

theorem wramSize_clock (chip : Chip) : chip.clock.wramSize = chip.wramSize := by
  cases chip <;> rfl

/-- The registry knows which boards come with work RAM. -/
theorem Wired.wramSize_eq {board : Board} {solder : Mirroring} {chip : Chip}
    (h : chip.Wired board solder) : chip.wramSize = board.wramSize := by
  cases h with
  | nrom | mmc1 | mmc3 | action53 | fme7 => rfl
  | mmc2 hkind | mmc4 hkind => rw [wramSize, hkind]; rfl
  | discrete hlayout =>
    cases board with
    | nrom | mmc1 | mmc3 | mmc2 | mmc4 | action53 | fme7 => cases hlayout
    | uxRom | cnRom | axRom | colorDreams | unrom512 | bnRom | gnRom => rfl

end Chip

theorem Hardware.size_wram_powerOn (board : Board) (prg : Memory) (chr : Chr)
    (solder : Mirroring) : (powerOn board prg chr solder).wram.size = board.wramSize :=
  Array.size_replicate.trans (Chip.wired_powerOn board solder).wramSize_eq

namespace Chip

/-! ## The select register -/

theorem select?_fetched (chip : Chip) (addr : UInt16) :
    (chip.fetched addr).select? = chip.select? := by
  cases chip with
  | mmc3 c =>
    simp only [fetched, Mmc3.fetched, select?]
    split <;> rfl
  | _ => rfl

theorem select?_clock (chip : Chip) : chip.clock.select? = chip.select? := by
  cases chip with
  | fme7 c =>
    simp only [clock, Fme7.clock, select?]
    split <;> rfl
  | _ => rfl

theorem command_load (c : Fme7) (data : UInt8) : (c.load data).command = c.command := by
  unfold Fme7.load
  dsimp only
  repeat' split
  all_goals rfl

theorem select_load (c : Action53) (data : UInt8) : (c.load data).select = c.select := by
  unfold Action53.load
  repeat' split
  all_goals rfl

theorem select_takeScreen (c : Action53) (data : UInt8) :
    (c.takeScreen data).select = c.select := by
  unfold Action53.takeScreen
  split <;> rfl

/-- A write that the board lists sets the select register or leaves it alone. -/
theorem Wired.select?_write {board : Board} {solder : Mirroring} {chip : Chip}
    (h : chip.Wired board solder) {w : RegisterWrite} (hw : board.Emits w) :
    (chip.write w.addr w.data).select? =
      if board.selectAddr? = some w.addr then some w.data else chip.select? := by
  obtain ⟨addr, data⟩ := w
  have haddr := hw.addr
  have hdata := hw.select
  show (chip.write addr data).select? = if board.selectAddr? = some addr then some data else _
  cases h with
  | nrom | mmc1 | mmc2 | mmc4 => rfl
  | mmc3 =>
    have hmem : addr ∈ Board.mmc3.addresses := haddr
    simp only [Board.addresses, Board.descriptor, List.map_cons, List.map_nil, List.mem_cons,
      List.not_mem_nil, or_false] at hmem
    -- The first of the eight registers is the select register.
    rcases hmem with rfl | rfl | rfl | rfl | rfl | rfl | rfl | rfl <;> rfl
  | action53 =>
    have hmem : addr ∈ Board.action53.addresses := haddr
    simp only [Board.addresses, Board.descriptor, List.map_cons, List.map_nil, List.mem_cons,
      List.not_mem_nil, or_false] at hmem
    rcases hmem with rfl | rfl
    · exact congrArg some (hdata rfl)
    · exact congrArg some ((select_takeScreen _ data).trans (select_load _ data))
  | fme7 =>
    have hmem : addr ∈ Board.fme7.addresses := haddr
    simp only [Board.addresses, Board.descriptor, List.map_cons, List.map_nil, List.mem_cons,
      List.not_mem_nil, or_false] at hmem
    rcases hmem with rfl | rfl
    · exact congrArg some (hdata rfl)
    · exact congrArg some (command_load _ data)
  | discrete hlayout =>
    rw [(Board.latch_mem_addresses hlayout).1]
    rfl

/-- A byte that names a register of the board goes into the select register as it is. -/
theorem Wired.write_selectAddr {board : Board} {solder : Mirroring} {chip : Chip}
    (h : chip.Wired board solder) {addr : UInt16} (haddr : board.selectAddr? = some addr)
    {byte : UInt8} (hbyte : board.IsSelect byte) : chip.write addr byte = chip.withSelect byte := by
  have hmask : byte &&& board.selectMask = byte := hbyte
  cases h with
  | nrom | mmc1 | mmc2 | mmc4 => cases haddr
  | mmc3 =>
    cases haddr
    rfl
  | @action53 _ c =>
    cases haddr
    -- The chip keeps two bits of the byte, and the byte has no others.
    have hbits : byte &&& 0x81 = byte := hmask
    show Chip.action53 { c with select := byte &&& 0x81 } = _
    rw [hbits]
    rfl
  | @fme7 _ c =>
    cases haddr
    have hbits : byte &&& 0x0F = byte := hmask
    show Chip.fme7 { c with command := byte &&& 0x0F } = _
    rw [hbits]
    rfl
  | discrete hlayout =>
    rw [(Board.latch_mem_addresses hlayout).1] at haddr
    cases haddr

/-- After the writes of a request the select register holds what the controller notes. -/
theorem Wired.select?_writeAll {board : Board} {solder : Mirroring} {chip : Chip}
    (h : chip.Wired board solder) {writes : List RegisterWrite}
    (hw : ∀ w ∈ writes, board.Emits w) {select : UInt8}
    (hselect : chip.select? = board.selectAddr?.map fun _ => select) :
    (chip.writeAll writes).select? = board.selectAddr?.map fun _ =>
      writes.foldl (fun select w => if board.selectAddr? = some w.addr then w.data else select)
        select := by
  -- Chip and controller look at the same writes, one after the other.
  induction writes generalizing chip select with
  | nil => exact hselect
  | cons w rest ih =>
    have hfirst := hw w (List.mem_cons_self ..)
    have hrest : ∀ w ∈ rest, board.Emits w := fun w hw' => hw w (List.mem_cons_of_mem _ hw')
    apply ih (h.write w.addr w.data) hrest
    rw [h.select?_write hfirst, hselect]
    by_cases haddr : board.selectAddr? = some w.addr
    · simp only [haddr, if_true, Option.map_some]
    · simp only [if_neg haddr]

end Chip

/-! ## Writes on their way to the chip -/

theorem toNat_identityTable (value : UInt8) :
    (Address.identityTable + value.toUInt16).toNat = 0xFF00 + value.toNat := by
  have hlt := value.toNat_lt
  rw [UInt16.toNat_add, UInt8.toNat_toUInt16]
  show (0xFF00 + value.toNat) % 2 ^ 16 = _
  omega

namespace Board

theorem addresses_outside {board : Board} {addr : UInt16} (h : addr ∈ board.addresses) :
    0x5000 ≤ addr.toNat ∧ inWram addr = false := by
  have hall : (board.addresses.all fun addr =>
      decide (0x5000 ≤ addr.toNat ∧ inWram addr = false)) = true := by
    cases board <;> decide
  exact of_decide_eq_true (List.all_eq_true.mp hall addr h)

/-- On boards with bus conflicts the address follows from the byte. -/
theorem Lists.toNat_addr {board : Board} {w : RegisterWrite} (h : board.Lists w)
    (hconflicts : board.descriptor.busConflicts = true) :
    w.addr.toNat = 0xFF00 + w.data.toNat := by
  rw [Lists, if_pos hconflicts] at h
  rw [h, toNat_identityTable]

theorem Lists.mem_addresses {board : Board} {w : RegisterWrite} (h : board.Lists w)
    (hconflicts : board.descriptor.busConflicts = false) : w.addr ∈ board.addresses := by
  rwa [Lists, hconflicts, if_neg (by decide)] at h

/-- Every listed write passes the console's decoder and misses the work RAM. -/
theorem Lists.outside {board : Board} {w : RegisterWrite} (h : board.Lists w) :
    0x5000 ≤ w.addr.toNat ∧ inWram w.addr = false := by
  cases hconflicts : board.descriptor.busConflicts with
  | true =>
    have htable := h.toNat_addr hconflicts
    exact ⟨by omega, inWram_of_le (by omega)⟩
  | false => exact addresses_outside (h.mem_addresses hconflicts)

theorem Emits.lists {board : Board} {w : RegisterWrite} (h : board.Emits w) : board.Lists w :=
  h.addr

end Board

/-- The PRG memory lets every latch write through that the controller makes on this board. -/
def Memory.Quiet (prg : Memory) (board : Board) : Prop :=
  board.descriptor.busConflicts = true → PrgLength prg.size ∧ prg.HasIdentityTables

theorem Memory.quiet_of_no_conflicts {board : Board} (h : board.descriptor.busConflicts = false)
    (prg : Memory) : prg.Quiet board := by
  intro hconflicts
  rw [h] at hconflicts
  cases hconflicts

/-- The boards with an IRQ counter have no bus conflicts. -/
theorem Memory.quiet_of_irq {board : Board} (h : board.descriptor.supportsIrq = true)
    (prg : Memory) : prg.Quiet board := by
  refine quiet_of_no_conflicts ?_ prg
  cases board with
  | mmc3 | fme7 => rfl
  | _ => cases h

/-- In a memory of whole pages the identity tables are mapped at `$FF00` whatever the latch
holds. -/
theorem Hardware.readCpu_identityTable {hw : Hardware} {board : Board} {solder : Mirroring}
    (hwired : hw.chip.Wired board solder) (hconflicts : board.descriptor.busConflicts = true)
    (hpos : 0 < hw.prg.size) (hpages : 0x2000 ∣ hw.prg.size) (htables : hw.prg.HasIdentityTables)
    (value : UInt8) : hw.readCpu (Address.identityTable + value.toUInt16) = value := by
  obtain ⟨chip, prg, chr, wram⟩ := hw
  have haddr := toNat_identityTable value
  have hlt := value.toNat_lt
  -- Every bank is made of whole pages, so the end of its last page is an identity table.
  have hread : ∀ bank size, 0x2000 ∣ size →
      prg.banked bank size (Address.identityTable + value.toUInt16).toNat = value := by
    intro bank size hsize
    have hoffset : (Address.identityTable + value.toUInt16).toNat % 0x2000 =
        identityOffset + value.toNat := by
      rw [haddr]
      show _ = 0x1F00 + value.toNat
      omega
    rw [htables.banked hpos hpages hsize bank hlt hoffset, UInt8.ofNat_toNat]
  cases hwired with
  | discrete hlayout =>
    have hupper : 0x8000 ≤ (Address.identityTable + value.toUInt16).toNat := by omega
    simp only [readCpu, cpuTarget, Chip.cpuTarget, Discrete.cpuTarget, if_pos hupper,
      Discrete.prgRef]
    split
    · exact hread _ 0x4000 (by decide)
    · exact hread _ 0x8000 (by decide)
  | _ => cases hconflicts

/-- A register write that the board lists changes nothing but the chip. -/
theorem Hardware.write_of_emits {hw : Hardware} {board : Board} {solder : Mirroring}
    (hwired : hw.chip.Wired board solder) (hquiet : hw.prg.Quiet board) {w : RegisterWrite}
    (hw' : board.Emits w) :
    hw.write w.addr w.data = { hw with chip := hw.chip.write w.addr w.data } := by
  obtain ⟨hlow, hwram⟩ := hw'.lists.outside
  -- Where the ROM answers a write too, the chip sees the AND of two equal bytes.
  have hseen :
      (if hw.chip.busConflicts then w.data &&& hw.readCpu w.addr else w.data) = w.data := by
    rw [hwired.busConflicts_eq]
    cases hconflicts : board.descriptor.busConflicts with
    | true =>
      obtain ⟨hlength, htables⟩ := hquiet hconflicts
      have haddr := hw'.addr
      rw [hconflicts, if_pos rfl] at haddr
      rw [if_pos rfl, haddr,
        readCpu_identityTable hwired hconflicts hlength.pos hlength.page_dvd htables,
        UInt8.and_self]
    | false => rfl
  rw [write, if_neg (by omega), hwram, if_neg (by decide), writeChip]
  simp only [hseen]

namespace Console

/-- The chip of the cartridge in the console. -/
def chip (console : Console) : Chip :=
  console.cart.hardware.chip

/-- The console with another state of the chip, and everything else as it was. -/
def withChip (console : Console) (chip : Chip) : Console :=
  { console with cart.hardware.chip := chip }

@[simp] theorem withChip_chip (console : Console) : console.withChip console.chip = console := rfl

variable {console : Console} {board : Board} {solder : Mirroring}

theorem writeCpu_of_emits (hwired : console.chip.Wired board solder)
    (hquiet : console.cart.hardware.prg.Quiet board) {w : RegisterWrite} (hw : board.Emits w) :
    console.writeCpu w.addr w.data = console.withChip (console.chip.write w.addr w.data) := by
  have hlow := hw.lists.outside.1
  rw [writeCpu, if_neg (by omega), if_neg (by omega), Cartridge.write,
    Hardware.write_of_emits hwired hquiet hw]
  rfl

/-- The writes of a request reach the chip as they are, and nothing else. -/
theorem writeAll_eq (hwired : console.chip.Wired board solder)
    (hquiet : console.cart.hardware.prg.Quiet board) {writes : List RegisterWrite}
    (hw : ∀ w ∈ writes, board.Emits w) :
    Bus.writeAll console writes = console.withChip (console.chip.writeAll writes) := by
  induction writes generalizing console with
  | nil => rfl
  | cons w rest ih =>
    have hfirst := writeCpu_of_emits hwired hquiet (hw w (List.mem_cons_self ..))
    rw [Bus.writeAll_cons]
    show Bus.writeAll (console.writeCpu w.addr w.data) rest = _
    -- The next write meets a chip of the same kind and the same PRG memory.
    have hnext : (console.withChip (console.chip.write w.addr w.data)).chip.Wired board solder :=
      hwired.write w.addr w.data
    rw [hfirst, ih hnext hquiet fun w hw' => hw w (List.mem_cons_of_mem _ hw')]
    rfl

end Console

end NesCartridge
