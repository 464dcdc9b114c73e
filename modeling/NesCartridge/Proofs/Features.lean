/-
  NesCartridge.Proofs.Features

  What the mirroring and work RAM requests bring about. Where a board can switch its mirroring the
  chip has the mode in the shadow (`Chip.Wired.mirroring_eq`), and where it has work RAM the chip
  gates it as the shadow says (`Chip.Wired.cpuTarget_wram`). From that follows what reads and writes
  of the work RAM and of the nametables find.
-/
import NesCartridge.Proofs.InStep

namespace NesCartridge

/-! ## The chip -/

/-- What answers in the range of the work RAM. -/
def Shadow.wramTarget (shadow : Shadow) : CpuTarget :=
  match shadow.wram with
  | some .disabled => .openBus
  | some .readOnly => .wram false
  | _ => .wram true

/-- What answers in the range of the work RAM under an access mode. -/
def WramMode.target : WramMode → CpuTarget
  | .disabled => .openBus
  | .readOnly => .wram false
  | .readWrite => .wram true

/-- The work RAM is open until an access mode is selected. -/
theorem Shadow.wramTarget_eq (shadow : Shadow) :
    shadow.wramTarget = (shadow.wram.getD .readWrite).target := by
  rw [wramTarget]
  cases shadow.wram with
  | none => rfl
  | some mode => cases mode <;> rfl

namespace Shadow.Fits

variable {shadow : Shadow} {board : Board}

/-- A board that can switch its mirroring has selected one of its modes. -/
theorem supports_mode (h : shadow.Fits board)
    (hchoice : board.descriptor.mirroring.hasChoice = true) :
    board.descriptor.supportsMirroring shadow.mode = true := by
  have hsome : shadow.mirroring.isSome = true := h.mirroring_isSome.trans hchoice
  obtain ⟨mode, hmode⟩ := Option.isSome_iff_exists.mp hsome
  rw [Shadow.mode, hmode]
  exact h.mirroring_mem mode hmode

theorem mode_ne_fourScreen (h : shadow.Fits board)
    (hchoice : board.descriptor.mirroring.hasChoice = true) : shadow.mode ≠ .fourScreen := by
  intro hmode
  have hsupports := h.supports_mode hchoice
  rw [hmode] at hsupports
  cases hsupports

end Shadow.Fits

namespace Chip.Wired

variable {board : Board} {solder : Mirroring} {chip : Chip} {shadow : Shadow}

/-- The nametables are wired as the shadow says, on boards that can switch them. -/
theorem mirroring_eq (h : chip.Wired board solder) (hholds : chip.Holds shadow)
    (hfits : shadow.Fits board) (hchoice : board.descriptor.mirroring.hasChoice = true) :
    chip.mirroring = shadow.mode := by
  -- No chip can show four screens; a shadow that fits has not selected them.
  have hmode := hfits.mode_ne_fourScreen hchoice
  cases h with
  | nrom => cases hchoice
  | mmc1 => exact Mmc1.Holds.mirroring_eq hholds hmode
  | mmc2 | mmc4 => exact Mmc2.Holds.mirroring hholds
  | mmc3 => exact Mmc3.Holds.mirroring hholds
  | action53 => exact Action53.Holds.mirroring_eq hholds hmode
  | fme7 => exact Fme7.Holds.mirroring_eq hholds hmode
  | discrete hlayout =>
    exact Discrete.Holds.mirroring_eq hholds hlayout (hfits.supports_mode hchoice)

/-- The work RAM is gated as the shadow says. -/
theorem cpuTarget_wram (h : chip.Wired board solder) (hholds : chip.Holds shadow)
    (hfits : shadow.Fits board) (hwram : board.descriptor.hasWram = true) {addr : UInt16}
    (haddr : inWram addr = true) (prgSize : Nat) :
    chip.cpuTarget prgSize board.wramSize addr = shadow.wramTarget := by
  have hsome : shadow.wram.isSome = true := hfits.wram_isSome.trans hwram
  obtain ⟨mode, hmode⟩ := Option.isSome_iff_exists.mp hsome
  have hmem := hfits.wram_mem mode hmode
  rw [Shadow.wramTarget, hmode]
  -- The modes that a board does not support fall to `hmem`.
  cases h with
  | nrom | mmc2 | action53 => cases hwram
  | mmc1 =>
    rw [cpuTarget, Mmc1.cpuTarget, haddr, if_pos rfl, Mmc1.Holds.wramEnabled_eq hholds hfits, hmode]
    cases mode with
    | disabled | readWrite => rfl
    | readOnly => cases hmem
  | mmc4 hkind =>
    rw [cpuTarget, Mmc2.cpuTarget, haddr, if_pos rfl, Board.wramSize, if_pos hwram,
      if_pos (by decide)]
    cases mode with
    | readWrite => rfl
    | disabled | readOnly => cases hmem
  | @mmc3 _ c =>
    have hchip : c.Holds shadow := hholds
    rw [cpuTarget, Mmc3.cpuTarget, haddr, if_pos rfl, hchip.wramEnabled, hchip.wramProtected, hmode]
    cases mode <;> rfl
  | fme7 =>
    rw [cpuTarget, Fme7.cpuTarget, haddr, if_pos rfl, Fme7.Holds.lowTarget_eq hholds, hmode]
    cases mode with
    | disabled | readWrite => rfl
    | readOnly => cases hmem
  | discrete hlayout =>
    rw [Descriptor.hasWram, (Discrete.features_eq hlayout).1] at hwram
    cases hwram

/-- Without work RAM nothing answers in its range. -/
theorem cpuTarget_no_wram (h : chip.Wired board solder) (hwram : board.descriptor.hasWram = false)
    {addr : UInt16} (haddr : inWram addr = true) (prgSize : Nat) :
    chip.cpuTarget prgSize board.wramSize addr = .openBus := by
  have hrange := inWram_iff.mp haddr
  have hlow : ¬ 0x8000 ≤ addr.toNat := Nat.not_le.mpr hrange.2
  cases h with
  | nrom => exact if_neg fun hprg => hlow hprg.1
  | mmc2 hkind =>
    rw [cpuTarget, Mmc2.cpuTarget, haddr, if_pos rfl]
    rfl
  | action53 => exact if_neg hlow
  | discrete => exact if_neg hlow
  | mmc1 | mmc4 | mmc3 | fme7 => cases hwram

end Chip.Wired

/-! ## Work RAM -/

/-- Different addresses of the range are different places in the work RAM. -/
theorem wramPlace_inj {addr other : UInt16} (haddr : inWram addr = true)
    (hother : inWram other = true) (h : wramPlace addr = wramPlace other) : addr = other := by
  have hrange := inWram_iff.mp haddr
  have hrange' := inWram_iff.mp hother
  rw [wramPlace_eq haddr, wramPlace_eq hother] at h
  apply UInt16.toNat_inj.mp
  omega

/-- A byte is read at the address where it was stored, and at no other. -/
theorem Memory.wramRead_wramWrite {mem : Memory} (hsize : mem.size = 0x2000)
    {addr other : UInt16} (haddr : inWram addr = true) (hother : inWram other = true)
    (data : UInt8) :
    (mem.wramWrite addr data).wramRead other =
      if addr = other then data else mem.wramRead other := by
  have hplace : wramPlace addr < mem.size := hsize ▸ wramPlace_lt_of_inWram haddr
  rw [wramRead, wramRead, wramWrite, Array.getD_eq_getD_getElem?, Array.getD_eq_getD_getElem?]
  by_cases hsame : addr = other
  · subst hsame
    rw [if_pos rfl, Array.getElem?_setIfInBounds_self_of_lt hplace]
    rfl
  · have hplaces : wramPlace addr ≠ wramPlace other := mt (wramPlace_inj haddr hother) hsame
    rw [if_neg hsame, Array.getElem?_setIfInBounds_ne hplaces]

namespace Console

variable {console : Console} {addr : UInt16}

theorem writeCpu_of_inWram (haddr : inWram addr = true) (data : UInt8) :
    console.writeCpu addr data =
      { console with cart.hardware := console.cart.hardware.writeWram addr data } := by
  have hrange := inWram_iff.mp haddr
  rw [writeCpu, if_neg (by omega), if_neg (by omega), Cartridge.write, Hardware.write,
    if_neg (by omega), haddr, if_pos rfl]

/-- Where the chip sends an access at this address. -/
def target (console : Console) (addr : UInt16) : CpuTarget :=
  console.cart.hardware.cpuTarget addr

theorem target_eq {wramSize : Nat} (hsize : console.workRam.size = wramSize) (addr : UInt16) :
    console.target addr =
      console.chip.cpuTarget console.cart.hardware.prg.size wramSize addr := by
  rw [← hsize]
  rfl

theorem readCpu_of_openBus (haddr : inWram addr = true)
    (htarget : console.target addr = .openBus) : console.readCpu addr = openBus addr := by
  have hchip : console.cart.hardware.cpuTarget addr = .openBus := htarget
  rw [console.readCpu_of_le (le_of_inWram haddr), Hardware.readCpu, hchip]

theorem readCpu_of_wram (haddr : inWram addr = true) {writable : Bool}
    (htarget : console.target addr = .wram writable) :
    console.readCpu addr = console.workRam.wramRead addr := by
  have hchip : console.cart.hardware.cpuTarget addr = .wram writable := htarget
  rw [console.readCpu_of_le (le_of_inWram haddr), Hardware.readCpu, hchip]
  rfl

/-- A write to the work RAM takes effect only through an open gate. -/
theorem writeCpu_of_closed (haddr : inWram addr = true)
    (htarget : console.target addr ≠ .wram true) (data : UInt8) :
    console.writeCpu addr data = console := by
  rw [writeCpu_of_inWram haddr, Hardware.writeWram]
  split
  next hopen => exact absurd hopen htarget
  next => rfl

theorem writeCpu_of_open (haddr : inWram addr = true) (htarget : console.target addr = .wram true)
    (data : UInt8) :
    console.writeCpu addr data =
      { console with cart.hardware := console.cart.hardware.storeWram addr data } := by
  have hchip : console.cart.hardware.cpuTarget addr = .wram true := htarget
  rw [writeCpu_of_inWram haddr, Hardware.writeWram, hchip]

/-! ## Nametables -/

/-- The nametables lie between pattern memory and the palette. -/
def InNametables (addr : UInt16) : Prop :=
  0x2000 ≤ addr.toNat ∧ addr.toNat < 0x3F00

instance (addr : UInt16) : Decidable (InNametables addr) :=
  inferInstanceAs (Decidable (_ ∧ _))

variable {base : UInt16}

theorem ppuRegion_of_nametables (console : Console) (haddr : InNametables addr) :
    console.ppuRegion addr = .nametables (console.nametableCell addr) := by
  obtain ⟨hlow, hhigh⟩ := haddr
  have hself : ppuAddr addr = addr := ppuAddr_of_lt (by omega)
  have hregion : console.ppuRegion addr =
      if (ppuAddr addr).toNat < 0x2000 then .patterns (ppuAddr addr)
      else if (ppuAddr addr).toNat < 0x3F00 then .nametables (console.nametableCell (ppuAddr addr))
      else .palette (paletteEntry (ppuAddr addr)) := rfl
  rw [hregion, hself, if_neg (by omega), if_pos hhigh]

theorem readPpu_of_nametables (console : Console) (haddr : InNametables addr) :
    console.readPpu addr = (console.nametables.get (console.nametableCell addr), console) := by
  rw [readPpu, console.ppuRegion_of_nametables haddr]

theorem writePpu_of_nametables (console : Console) (hbase : InNametables base) (data : UInt8) :
    console.writePpu base data =
      { console with nametables := console.nametables.set (console.nametableCell base) data } := by
  rw [writePpu, console.ppuRegion_of_nametables hbase]

/-- A byte stored in the nametables shows at every address with the same cell. -/
theorem readPpu_writePpu_of_nametables (console : Console) (haddr : InNametables addr)
    (hbase : InNametables base) (data : UInt8) :
    ((console.writePpu base data).readPpu addr).1 =
      if console.cart.mirroring.cell addr = console.cart.mirroring.cell base then data
      else (console.readPpu addr).1 := by
  rw [console.writePpu_of_nametables hbase, readPpu_of_nametables _ haddr,
    readPpu_of_nametables _ haddr]
  split
  next hsame =>
    have hcell : console.nametableCell addr = console.nametableCell base := Fin.ext hsame
    show (console.nametables.set (console.nametableCell base) data).get
      (console.nametableCell addr) = data
    rw [hcell]
    exact Vector.getElem_set_self _
  next hother =>
    exact Vector.getElem_set_ne (console.nametableCell base).isLt (console.nametableCell addr).isLt
      fun hsame => hother hsame.symm

end Console

namespace InStep

variable {board : Board} {prg : Memory} {solder : Mirroring} {session : Session Console}
  {shadow : Shadow}

theorem mirroring_eq (h : InStep board prg solder session)
    (hshadow : session.controller.shadow = some shadow)
    (hchoice : board.descriptor.mirroring.hasChoice = true) :
    session.bus.cart.mirroring = shadow.mode := by
  obtain ⟨hfits, hholds⟩ := h.shadow shadow hshadow
  exact h.wired.mirroring_eq hholds hfits hchoice

theorem target_wram (h : InStep board prg solder session)
    (hshadow : session.controller.shadow = some shadow)
    (hwram : board.descriptor.hasWram = true) {addr : UInt16} (haddr : inWram addr = true) :
    session.bus.target addr = shadow.wramTarget := by
  obtain ⟨hfits, hholds⟩ := h.shadow shadow hshadow
  rw [Console.target_eq h.wram_size]
  exact h.wired.cpuTarget_wram hholds hfits hwram haddr _

theorem size_workRam (h : InStep board prg solder session)
    (hwram : board.descriptor.hasWram = true) : session.bus.workRam.size = 0x2000 :=
  h.wram_size.trans (if_pos hwram)

end InStep

end NesCartridge
