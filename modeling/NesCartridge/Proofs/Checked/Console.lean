/-
  NesCartridge.Proofs.Checked.Console

  The cartridge and the console around it with every step checked that can fail: the places of CPU
  RAM, work RAM, nametable memory and palette, and the banks that the chip chooses. Main statement:
  in a console whose memories have lengths of 64 bits and whose chip is steady (`Console.Sound`) no
  access traps, each does what the plain access does, and the console stays so
  (`Console.Sound.readPpu`, `Console.Sound.writeCpu` and the like). Whether PRG and pattern memory
  are empty, or of a length that no bank divides, does not matter. The work RAM has the length that
  goes with the chip; an MMC2 has none, and only the guard in its decoder keeps reads away from it
  (`Chip.wramPlace_lt`).
-/
import NesCartridge.Proofs.Checked.Chips
import NesCartridge.Proofs.ConsoleAccess

namespace NesCartridge

open Checked

/-! ## The cartridge -/

namespace Hardware

/-- Place of an address in the work RAM, which starts at `$6000`. -/
def checkedWramPlace (addr : UInt16) : Checked Nat :=
  sub addr.toNat 0x6000

def checkedReadChr (hw : Hardware) (addr : UInt16) : Checked UInt8 := do
  let ref ← hw.chip.checkedChrRef addr
  hw.chr.cells.checkedBanked ref.bank ref.size addr.toNat

/-- NROM has no banks: its memory is repeated from `$8000` up. -/
def checkedReadUnbanked (prg : Memory) (addr : UInt16) : Checked UInt8 := do
  pick prg.cell (← mod (← sub addr.toNat 0x8000) prg.size)

def checkedReadCpu (hw : Hardware) (addr : UInt16) : Checked UInt8 := do
  match ← hw.chip.checkedCpuTarget hw.prg.size hw.wram.size addr with
  | .prg ref =>
    match hw.chip with
    | .nrom _ => checkedReadUnbanked hw.prg addr
    | _ => hw.prg.checkedBanked ref.bank ref.size addr.toNat
  | .wram _ => pick hw.wram.cell (← checkedWramPlace addr)
  | .openBus => return openBus addr

def checkedRead (hw : Hardware) (addr : UInt16) : Checked UInt8 :=
  if addr.toNat < 0x2000 then hw.checkedReadChr addr else hw.checkedReadCpu addr

def checkedWriteChr (hw : Hardware) (addr : UInt16) (data : UInt8) : Checked Hardware := do
  let ref ← hw.chip.checkedChrRef addr
  return { hw with chr := ← hw.chr.checkedWrite ref.bank ref.size addr.toNat data }

/-- Where the work RAM answers it has the place. -/
def checkedStoreGated (hw : Hardware) (addr : UInt16) (data : UInt8) : Checked Hardware := do
  match ← hw.chip.checkedCpuTarget hw.prg.size hw.wram.size addr with
  | .wram true => return { hw with wram := ← hw.wram.checkedSet (← checkedWramPlace addr) data }
  | _ => return hw

/-- On MMC2 and MMC4 the store itself looks whether there is such a place. -/
def checkedWriteWram (hw : Hardware) (addr : UInt16) (data : UInt8) : Checked Hardware := do
  match hw.chip with
  | .mmc2 _ => return { hw with wram := hw.wram.setIfInBounds (← checkedWramPlace addr) data }
  | _ => hw.checkedStoreGated addr data

def checkedWriteChip (hw : Hardware) (addr : UInt16) (data : UInt8) : Checked Hardware := do
  let seen ← if hw.chip.busConflicts then pure (data &&& (← hw.checkedReadCpu addr)) else pure data
  return { hw with chip := ← hw.chip.checkedWrite addr seen }

def checkedWrite (hw : Hardware) (addr : UInt16) (data : UInt8) : Checked Hardware :=
  if addr.toNat < 0x2000 then hw.checkedWriteChr addr data
  else if inWram addr then hw.checkedWriteWram addr data
  else hw.checkedWriteChip addr data

def checkedFetched (hw : Hardware) (addr : UInt16) : Checked Hardware := do
  return { hw with chip := ← hw.chip.checkedFetched addr }

/-- Lengths are numbers of 64 bits, the work RAM is the one that goes with the chip, and the chip
is steady. -/
structure Sound (hw : Hardware) : Prop where
  prg : hw.prg.size < sizeLimit
  chr : hw.chr.cells.size < sizeLimit
  wram : hw.wram.size = hw.chip.wramSize
  steady : hw.chip.Steady

theorem checkedWramPlace_eq {addr : UInt16} (haddr : inWram addr = true) :
    checkedWramPlace addr = .ok (wramPlace addr) := by
  rw [checkedWramPlace, sub_eq (inWram_iff.mp haddr).1, wramPlace_eq haddr]

/-- Without banks the memory is one bank of 32 KiB. -/
theorem checkedReadUnbanked_eq {prg : Memory} {addr : UInt16} (haddr : 0x8000 ≤ addr.toNat)
    (hprg : 0 < prg.size) :
    checkedReadUnbanked prg addr = .ok (prg.banked 0 0x8000 addr.toNat) := by
  have hplace : (addr.toNat - 0x8000) % prg.size = bankedIndex prg.size 0 0x8000 addr.toNat := by
    have hoffset : addr.toNat - 0x8000 = addr.toNat % 0x8000 := by
      have := addr.toNat_lt
      omega
    rw [bankedIndex, Nat.zero_mod, Nat.zero_mul, Nat.zero_add, hoffset]
  have hlt := bankedIndex_lt hprg 0 0x8000 addr.toNat
  rw [checkedReadUnbanked, sub_eq haddr, ok_bind, mod_eq hprg, hplace, Memory.banked,
    dif_pos hprg]
  exact pick_eq _ hlt

namespace Sound

variable {hw : Hardware}

theorem powerOn (board : Board) {prg : Memory} {chr : Chr} (solder : Mirroring)
    (hprg : prg.size < sizeLimit) (hchr : chr.cells.size < sizeLimit) :
    (Hardware.powerOn board prg chr solder).Sound :=
  ⟨hprg, hchr, Array.size_replicate, Chip.steady_powerOn board solder⟩

/-- The work RAM has the place wherever the chip lets it answer. -/
theorem wramPlace_lt (h : hw.Sound) {addr : UInt16} {writable : Bool}
    (htarget : hw.cpuTarget addr = .wram writable) : wramPlace addr < hw.wram.size := by
  rw [cpuTarget, h.wram] at htarget
  rw [h.wram]
  exact hw.chip.wramPlace_lt htarget

theorem checkedReadChr_eq (h : hw.Sound) {addr : UInt16} (haddr : addr.toNat < 0x2000) :
    hw.checkedReadChr addr = .ok (hw.readChr addr) := by
  obtain ⟨hpos, hlimit⟩ := hw.chip.size_chrRef addr
  rw [checkedReadChr, Chip.checkedChrRef_eq _ haddr, ok_bind,
    Memory.checkedBanked_eq h.chr hpos hlimit]
  rfl

theorem checkedReadCpu_eq (h : hw.Sound) (addr : UInt16) :
    hw.checkedReadCpu addr = .ok (hw.readCpu addr) := by
  rw [checkedReadCpu, Chip.checkedCpuTarget_eq _ h.prg, ok_bind, readCpu, cpuTarget]
  cases htarget : hw.chip.cpuTarget hw.prg.size hw.wram.size addr with
  | openBus => rfl
  | wram writable =>
    have hplace := h.wramPlace_lt htarget
    dsimp only
    rw [checkedWramPlace_eq (hw.chip.inWram_of_wram htarget), ok_bind, pick_eq _ hplace,
      Memory.wramRead, Array.getD_eq_getD_getElem?, Array.getElem?_eq_getElem hplace]
    rfl
  | prg ref =>
    obtain ⟨hpos, hlimit⟩ := hw.chip.size_prgRef htarget
    have hbanked := Memory.checkedBanked_eq h.prg hpos hlimit ref.bank addr.toNat
    cases hchip : hw.chip with
    | nrom solder =>
      -- The target alone tells that there is a PRG memory and that the address is above `$8000`.
      rw [hchip, Chip.cpuTarget] at htarget
      split at htarget
      next hfits =>
        cases htarget
        exact checkedReadUnbanked_eq hfits.1 hfits.2
      next => cases htarget
    | mmc1 | mmc2 | mmc3 | action53 | fme7 | discrete => exact hbanked

theorem checkedRead_eq (h : hw.Sound) (addr : UInt16) :
    hw.checkedRead addr = .ok (hw.read addr) := by
  rw [checkedRead, Hardware.read]
  split
  next haddr => exact h.checkedReadChr_eq haddr
  next => exact h.checkedReadCpu_eq addr

theorem checkedWriteChr_eq (h : hw.Sound) {addr : UInt16} (haddr : addr.toNat < 0x2000)
    (data : UInt8) : hw.checkedWriteChr addr data = .ok (hw.writeChr addr data) := by
  obtain ⟨hpos, hlimit⟩ := hw.chip.size_chrRef addr
  rw [checkedWriteChr, Chip.checkedChrRef_eq _ haddr, ok_bind,
    Chr.checkedWrite_eq h.chr hpos hlimit]
  rfl

theorem checkedStoreGated_eq (h : hw.Sound) {addr : UInt16} (haddr : inWram addr = true)
    (data : UInt8) : hw.checkedStoreGated addr data = .ok (hw.writeWram addr data) := by
  rw [checkedStoreGated, Chip.checkedCpuTarget_eq _ h.prg, ok_bind, checkedWramPlace_eq haddr,
    ok_bind, writeWram, cpuTarget]
  cases htarget : hw.chip.cpuTarget hw.prg.size hw.wram.size addr with
  | openBus | prg => rfl
  | wram writable =>
    have hplace := h.wramPlace_lt htarget
    rw [Memory.checkedSet_eq hplace, storeWram, Memory.wramWrite, Array.setIfInBounds,
      dif_pos hplace]
    cases writable <;> rfl

theorem checkedWriteWram_eq (h : hw.Sound) {addr : UInt16} (haddr : inWram addr = true)
    (data : UInt8) : hw.checkedWriteWram addr data = .ok (hw.writeWram addr data) := by
  have hgated := h.checkedStoreGated_eq haddr data
  obtain ⟨chip, prg, chr, wram⟩ := hw
  cases chip with
  | mmc2 c =>
    rw [checkedWriteWram, checkedWramPlace_eq haddr, writeWram, cpuTarget, Chip.cpuTarget,
      Mmc2.cpuTarget, if_pos haddr]
    dsimp only
    by_cases hsize : 0 < wram.size
    · rw [if_pos hsize]
      rfl
    · -- Without work RAM there is no place to store at.
      have hnone : wram.setIfInBounds (wramPlace addr) data = wram :=
        Array.setIfInBounds_eq_of_size_le (by omega)
      rw [if_neg hsize, ok_bind, hnone]
      rfl
  | nrom | mmc1 | mmc3 | action53 | fme7 | discrete => exact hgated

theorem checkedWriteChip_eq (h : hw.Sound) (addr : UInt16) (data : UInt8) :
    hw.checkedWriteChip addr data = .ok (hw.writeChip addr data) := by
  rw [checkedWriteChip, h.checkedReadCpu_eq, writeChip]
  cases hw.chip.busConflicts with
  | true =>
    show (do return { hw with chip := ← hw.chip.checkedWrite addr _ } : Checked Hardware) = _
    rw [Chip.checkedWrite_eq h.steady]
    rfl
  | false =>
    show (do return { hw with chip := ← hw.chip.checkedWrite addr data } : Checked Hardware) = _
    rw [Chip.checkedWrite_eq h.steady]
    rfl

theorem checkedWrite_eq (h : hw.Sound) (addr : UInt16) (data : UInt8) :
    hw.checkedWrite addr data = .ok (hw.write addr data) := by
  rw [checkedWrite, Hardware.write]
  split
  next haddr => exact h.checkedWriteChr_eq haddr data
  next =>
    split
    next haddr => exact h.checkedWriteWram_eq haddr data
    next => exact h.checkedWriteChip_eq addr data

theorem checkedFetched_eq (hw : Hardware) (addr : UInt16) :
    hw.checkedFetched addr = .ok (hw.fetched addr) := by
  rw [checkedFetched, Chip.checkedFetched_eq]
  rfl

/-! ### What accesses leave -/

theorem write (h : hw.Sound) (addr : UInt16) (data : UInt8) : (hw.write addr data).Sound := by
  rw [Hardware.write]
  split
  next =>
    exact ⟨h.prg, Nat.lt_of_le_of_lt (Nat.le_of_eq (Chr.size_write ..)) h.chr, h.wram, h.steady⟩
  next =>
    split
    next =>
      rw [writeWram]
      split
      next => exact ⟨h.prg, h.chr, (Memory.size_wramWrite ..).trans h.wram, h.steady⟩
      next => exact h
    next =>
      exact ⟨h.prg, h.chr, h.wram.trans (Chip.wramSize_write ..).symm, h.steady.write ..⟩

theorem fetched (h : hw.Sound) (addr : UInt16) : (hw.fetched addr).Sound :=
  ⟨h.prg, h.chr, h.wram.trans (Chip.wramSize_fetched ..).symm, h.steady.fetched addr⟩

theorem clock (h : hw.Sound) : hw.clock.Sound :=
  ⟨h.prg, h.chr, h.wram.trans (Chip.wramSize_clock _).symm, h.steady.clock⟩

end Sound

end Hardware

namespace Cartridge

def checkedRead (cart : Cartridge) (addr : UInt16) : Checked UInt8 :=
  cart.hardware.checkedRead addr

def checkedWrite (cart : Cartridge) (addr : UInt16) (data : UInt8) : Checked Cartridge :=
  return { cart with hardware := ← cart.hardware.checkedWrite addr data }

def checkedFetched (cart : Cartridge) (addr : UInt16) : Checked Cartridge :=
  return { cart with hardware := ← cart.hardware.checkedFetched addr }

end Cartridge

/-! ## Nametables and palette -/

/-- Cell of nametable memory behind an address, in numbers of 16 bits. -/
def Mirroring.checkedCell (mode : Mirroring) (addr : UInt16) : Checked Nat := do
  let inTables := (← sub addr.toNat 0x2000) % 0x1000
  let table := inTables / 0x400
  let offset := inTables % 0x400
  match mode with
  | vertical => fit 0x10000 ((← fit 0x10000 (table % 2 * 0x400)) + offset)
  | horizontal => fit 0x10000 ((← fit 0x10000 (table / 2 * 0x400)) + offset)
  | oneScreenLower => return offset
  | oneScreenUpper => fit 0x10000 (offset + 0x400)
  | fourScreen => return inTables

theorem Mirroring.checkedCell_eq (mode : Mirroring) {addr : UInt16} (haddr : 0x2000 ≤ addr.toNat) :
    mode.checkedCell addr = .ok (mode.cell addr) := by
  have hcell := mode.cell_lt addr
  rw [checkedCell, sub_eq haddr, ok_bind]
  cases mode with
  | vertical | horizontal => exact fit_add_eq (Nat.lt_trans hcell (by decide))
  | oneScreenUpper => exact fit_eq (Nat.lt_trans hcell (by decide))
  | oneScreenLower | fourScreen => rfl

namespace Console

def checkedPaletteEntry (addr : UInt16) : Checked Nat :=
  let entry := addr.toNat % 32
  if 16 ≤ entry ∧ entry % 4 = 0 then sub entry 16 else return entry

theorem checkedPaletteEntry_eq (addr : UInt16) :
    checkedPaletteEntry addr = .ok (paletteEntry addr).val := by
  rw [checkedPaletteEntry, paletteEntry]
  split
  next hsprite =>
    have hlt : addr.toNat % 32 - 16 < 32 := by omega
    rw [sub_eq hsprite.1]
    exact congrArg Except.ok (Nat.mod_eq_of_lt hlt).symm
  next =>
    have hlt : addr.toNat % 32 < 32 := Nat.mod_lt _ (by decide)
    exact congrArg Except.ok (Nat.mod_eq_of_lt hlt).symm

/-! ## The console -/

def checkedReadCpu (console : Console) (addr : UInt16) : Checked UInt8 :=
  if addr.toNat < 0x2000 then pick console.ram.get (addr.toNat % 0x800)
  else if addr.toNat < 0x4020 then return openBus addr
  else console.cart.checkedRead addr

def checkedWriteCpu (console : Console) (addr : UInt16) (data : UInt8) : Checked Console := do
  if addr.toNat < 0x2000 then
    return { console with ram := ← put console.ram (addr.toNat % 0x800) data }
  else if addr.toNat < 0x4020 then return console
  else return { console with cart := ← console.cart.checkedWrite addr data }

/-- The CPU makes writes in order. -/
def checkedWriteAll (console : Console) (writes : List RegisterWrite) : Checked Console :=
  writes.foldlM (fun console w => console.checkedWriteCpu w.addr w.data) console

def checkedFetched (console : Console) (addr : UInt16) : Checked Console :=
  return { console with cart := ← console.cart.checkedFetched addr }

def checkedReadPpu (console : Console) (addr : UInt16) : Checked (UInt8 × Console) := do
  let addr := ppuAddr addr
  if addr.toNat < 0x2000 then
    let data ← console.cart.checkedRead addr
    return (data, ← console.checkedFetched addr)
  else if addr.toNat < 0x3F00 then
    let data ← pick console.nametables.get (← console.cart.mirroring.checkedCell addr)
    return (data, console)
  else
    let data ← pick console.palette.get (← checkedPaletteEntry addr)
    return (data, console)

def checkedWritePpu (console : Console) (addr : UInt16) (data : UInt8) : Checked Console := do
  let addr := ppuAddr addr
  if addr.toNat < 0x2000 then
    let written := { console with cart := ← console.cart.checkedWrite addr data }
    written.checkedFetched addr
  else if addr.toNat < 0x3F00 then
    let cell ← console.cart.mirroring.checkedCell addr
    return { console with nametables := ← put console.nametables cell data }
  else
    let entry ← checkedPaletteEntry addr
    return { console with palette := ← put console.palette entry data }

def checkedScanline (console : Console) : Checked Console := do
  let (_, background) ← console.checkedReadPpu 0x0000
  return (← background.checkedReadPpu 0x1000).2

/-- The cartridge in the console is sound. -/
def Sound (console : Console) : Prop :=
  console.cart.hardware.Sound

namespace Sound

variable {console : Console}

theorem checkedReadCpu_eq (h : console.Sound) (addr : UInt16) :
    console.checkedReadCpu addr = .ok (console.readCpu addr) := by
  rw [checkedReadCpu, Console.readCpu]
  split
  next => exact pick_eq _ (Nat.mod_lt _ (by decide))
  next =>
    split
    next => rfl
    next => exact Hardware.Sound.checkedRead_eq h addr

theorem checkedWriteCpu_eq (h : console.Sound) (addr : UInt16) (data : UInt8) :
    console.checkedWriteCpu addr data = .ok (console.writeCpu addr data) := by
  rw [checkedWriteCpu, Console.writeCpu]
  split
  next =>
    have hplace : addr.toNat % 0x800 < 0x800 := Nat.mod_lt _ (by decide)
    rw [put_eq _ hplace]
    rfl
  next =>
    split
    next => rfl
    next => rw [Cartridge.checkedWrite, Hardware.Sound.checkedWrite_eq h]; rfl

theorem checkedFetched_eq (console : Console) (addr : UInt16) :
    console.checkedFetched addr = .ok (console.fetched addr) := by
  rw [Console.checkedFetched, Cartridge.checkedFetched, Hardware.Sound.checkedFetched_eq]
  rfl

/-- The mirroring in force leads to a cell of nametable memory. -/
theorem checkedCell_lt (console : Console) {addr : UInt16} (haddr : 0x2000 ≤ addr.toNat) :
    console.cart.mirroring.checkedCell addr = .ok (console.nametableCell addr).val ∧
      (console.nametableCell addr).val < 0x1000 :=
  ⟨Mirroring.checkedCell_eq _ haddr, (console.nametableCell addr).isLt⟩

theorem checkedReadPpu_eq (h : console.Sound) (addr : UInt16) :
    console.checkedReadPpu addr = .ok (console.readPpu addr) := by
  rw [checkedReadPpu, Console.readPpu, ppuRegion_eq]
  generalize ppuAddr addr = place
  by_cases hpatterns : place.toNat < 0x2000
  · rw [if_pos hpatterns, if_pos hpatterns, Cartridge.checkedRead, Hardware.Sound.checkedRead_eq h,
      ok_bind, checkedFetched_eq]
    rfl
  · rw [if_neg hpatterns, if_neg hpatterns]
    by_cases htables : place.toNat < 0x3F00
    · obtain ⟨hcell, hlt⟩ := checkedCell_lt console (Nat.le_of_not_lt hpatterns)
      rw [if_pos htables, if_pos htables, hcell, ok_bind, pick_eq _ hlt]
      rfl
    · rw [if_neg htables, if_neg htables, checkedPaletteEntry_eq, ok_bind,
        pick_eq _ (paletteEntry place).isLt]
      rfl

theorem checkedWritePpu_eq (h : console.Sound) (addr : UInt16) (data : UInt8) :
    console.checkedWritePpu addr data = .ok (console.writePpu addr data) := by
  rw [checkedWritePpu, Console.writePpu, ppuRegion_eq]
  generalize ppuAddr addr = place
  by_cases hpatterns : place.toNat < 0x2000
  · rw [if_pos hpatterns, if_pos hpatterns, Cartridge.checkedWrite,
      Hardware.Sound.checkedWrite_eq h]
    exact checkedFetched_eq _ place
  · rw [if_neg hpatterns, if_neg hpatterns]
    by_cases htables : place.toNat < 0x3F00
    · obtain ⟨hcell, hlt⟩ := checkedCell_lt console (Nat.le_of_not_lt hpatterns)
      rw [if_pos htables, if_pos htables, hcell, ok_bind, put_eq _ hlt]
      rfl
    · rw [if_neg htables, if_neg htables, checkedPaletteEntry_eq, ok_bind,
        put_eq _ (paletteEntry place).isLt]
      rfl

/-! ### What accesses leave -/

theorem powerOn {cart : Cartridge} (h : cart.hardware.Sound) : (Console.powerOn cart).Sound := h

theorem writeCpu (h : console.Sound) (addr : UInt16) (data : UInt8) :
    (console.writeCpu addr data).Sound := by
  rw [Console.writeCpu]
  split
  next => exact h
  next =>
    split
    next => exact h
    next => exact Hardware.Sound.write h addr data

theorem fetched (h : console.Sound) (addr : UInt16) : (console.fetched addr).Sound :=
  Hardware.Sound.fetched h addr

theorem readPpu (h : console.Sound) (addr : UInt16) : (console.readPpu addr).2.Sound := by
  rw [Console.readPpu]
  split
  next => exact h.fetched _
  next => exact h
  next => exact h

theorem writePpu (h : console.Sound) (addr : UInt16) (data : UInt8) :
    (console.writePpu addr data).Sound := by
  rw [Console.writePpu]
  split
  next => exact Hardware.Sound.fetched (Hardware.Sound.write h _ data) _
  next => exact h
  next => exact h

theorem tick (h : console.Sound) (cycles : Nat) : (console.tick cycles).Sound := by
  rw [Console.tick_eq]
  induction cycles with
  | zero => exact h
  | succ cycles ih => exact Hardware.Sound.clock ih

theorem writeAll (h : console.Sound) (writes : List RegisterWrite) :
    console.checkedWriteAll writes = .ok (Bus.writeAll console writes) ∧
      (Bus.writeAll console writes).Sound :=
  foldlM_eq (fun _ hnow w _ => ⟨hnow.checkedWriteCpu_eq w.addr w.data, hnow.writeCpu _ _⟩) h

theorem scanline (h : console.Sound) :
    console.checkedScanline = .ok console.scanline ∧ console.scanline.Sound := by
  have hbackground := h.readPpu 0x0000
  refine ⟨?_, hbackground.readPpu 0x1000⟩
  rw [checkedScanline, h.checkedReadPpu_eq, ok_bind]
  show (do return (← (console.readPpu 0x0000).2.checkedReadPpu 0x1000).2 : Checked Console) = _
  rw [hbackground.checkedReadPpu_eq]
  rfl

end Sound

end Console

end NesCartridge
