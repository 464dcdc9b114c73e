/-
  NesCartridge.Proofs.VideoMemory

  Nametables and palette are a memory behind an address map that the mirroring may change at any
  time. A read gives the byte last written to the cell that the address reaches now, wherever that
  cell was reached then (`video_memory_is_mirrored_store`); which addresses reach one cell is told
  for every pair of mirrorings (`SharesAsWired`).
-/
import NesCartridge.Proofs.ConsoleAccess

namespace NesCartridge

/-! ## Cells -/

/-- A byte of the nametable memory or of the palette. -/
inductive VideoCell where
  | nametable (cell : Fin 0x1000)
  | palette (entry : Fin 32)
  deriving DecidableEq

/-- The part of the PPU's address space that a cell belongs to. -/
def VideoCell.region : VideoCell → Console.PpuRegion
  | nametable cell => .nametables cell
  | palette entry => .palette entry

/-- The cell that the PPU reaches at an address; pattern memory has none. -/
def Mirroring.videoCell? (mode : Mirroring) (addr : UInt16) : Option VideoCell :=
  let line := Console.ppuAddr addr
  if line.toNat < 0x2000 then none
  else if line.toNat < 0x3F00 then some (.nametable ⟨mode.cell line, mode.cell_lt line⟩)
  else some (.palette (Console.paletteEntry line))

/-- The PPU finds a nametable at the address. -/
def InTables (addr : UInt16) : Prop :=
  0x2000 ≤ addr.toNat % 0x4000 ∧ addr.toNat % 0x4000 < 0x3F00

/-- The PPU finds the palette at the address. -/
def InPalette (addr : UInt16) : Prop :=
  0x3F00 ≤ addr.toNat % 0x4000

namespace Mirroring

variable {addr : UInt16}

theorem videoCell?_of_tables (mode : Mirroring) (h : InTables addr) :
    mode.videoCell? addr =
      some (.nametable ⟨mode.cell (Console.ppuAddr addr), mode.cell_lt _⟩) := by
  obtain ⟨hlow, hhigh⟩ := h
  rw [← Console.toNat_ppuAddr] at hlow hhigh
  rw [videoCell?, if_neg (Nat.not_lt.mpr hlow), if_pos hhigh]

theorem videoCell?_of_palette (mode : Mirroring) (h : InPalette addr) :
    mode.videoCell? addr = some (.palette (Console.paletteEntry (Console.ppuAddr addr))) := by
  have hpalette : 0x3F00 ≤ (Console.ppuAddr addr).toNat := by rwa [Console.toNat_ppuAddr]
  rw [videoCell?, if_neg (by omega), if_neg (by omega)]

/-- Above pattern memory every address has a cell. -/
theorem exists_videoCell (mode : Mirroring) (h : 0x2000 ≤ addr.toNat % 0x4000) :
    ∃ cell, mode.videoCell? addr = some cell := by
  by_cases hpalette : 0x3F00 ≤ addr.toNat % 0x4000
  · exact ⟨_, mode.videoCell?_of_palette hpalette⟩
  · exact ⟨_, mode.videoCell?_of_tables ⟨h, Nat.lt_of_not_le hpalette⟩⟩

end Mirroring

/-! ## One access -/

namespace Console

/-- The byte in a cell. -/
def videoByte (console : Console) : VideoCell → UInt8
  | .nametable cell => console.nametables.get cell
  | .palette entry => console.palette.get entry

theorem videoByte_powerOn (cart : Cartridge) (cell : VideoCell) :
    (powerOn cart).videoByte cell = 0 := by
  cases cell with
  | nametable cell => exact Vector.getElem_replicate cell.isLt
  | palette entry => exact Vector.getElem_replicate entry.isLt

theorem ppuRegion_of_cell (console : Console) {addr : UInt16} {cell : VideoCell}
    (h : console.cart.mirroring.videoCell? addr = some cell) :
    console.ppuRegion addr = cell.region := by
  rw [ppuRegion_eq]
  unfold Mirroring.videoCell? at h
  dsimp only at h
  split at h
  next => cases h
  next hlow =>
    rw [if_neg hlow]
    split at h
    next hhigh =>
      cases h
      exact if_pos hhigh
    next hhigh =>
      cases h
      exact if_neg hhigh

/-- Above pattern memory the PPU reads a cell, and nothing else happens. -/
theorem readPpu_of_cell (console : Console) {addr : UInt16} {cell : VideoCell}
    (h : console.cart.mirroring.videoCell? addr = some cell) :
    console.readPpu addr = (console.videoByte cell, console) := by
  rw [readPpu, console.ppuRegion_of_cell h]
  cases cell with
  | nametable | palette => rfl

/-- What a write above pattern memory does is a matter of the cell that it reaches. -/
theorem writePpu_eq_of_cell (console : Console) {addr addr' : UInt16} {cell : VideoCell}
    (h : console.cart.mirroring.videoCell? addr = some cell)
    (h' : console.cart.mirroring.videoCell? addr' = some cell) (data : UInt8) :
    console.writePpu addr data = console.writePpu addr' data := by
  rw [writePpu, writePpu, console.ppuRegion_of_cell h, console.ppuRegion_of_cell h']

/-- It stores the byte in this cell and in no other. -/
theorem videoByte_writePpu_of_cell (console : Console) {addr : UInt16} {target : VideoCell}
    (h : console.cart.mirroring.videoCell? addr = some target) (data : UInt8) (cell : VideoCell) :
    (console.writePpu addr data).videoByte cell =
      if target = cell then data else console.videoByte cell := by
  rw [writePpu, console.ppuRegion_of_cell h]
  by_cases hsame : target = cell
  · rw [if_pos hsame, ← hsame]
    cases target with
    | nametable target => exact Vector.getElem_set_self _
    | palette target => exact Vector.getElem_set_self _
  · rw [if_neg hsame]
    cases target with
    | nametable target =>
      cases cell with
      | nametable cell =>
        exact Vector.getElem_set_ne target.isLt cell.isLt fun h =>
          hsame (congrArg VideoCell.nametable (Fin.ext h))
      | palette cell => rfl
    | palette target =>
      cases cell with
      | nametable cell => rfl
      | palette cell =>
        exact Vector.getElem_set_ne target.isLt cell.isLt fun h =>
          hsame (congrArg VideoCell.palette (Fin.ext h))

theorem videoByte_writePpu (console : Console) (addr : UInt16) (data : UInt8) (cell : VideoCell) :
    (console.writePpu addr data).videoByte cell =
      if console.cart.mirroring.videoCell? addr = some cell then data
      else console.videoByte cell := by
  cases hcell : console.cart.mirroring.videoCell? addr with
  | some target =>
    rw [console.videoByte_writePpu_of_cell hcell]
    simp only [Option.some.injEq]
  | none =>
    rw [if_neg nofun]
    have hlt : addr.toNat % 0x4000 < 0x2000 := by
      refine Nat.lt_of_not_le fun hle => ?_
      obtain ⟨target, htarget⟩ := console.cart.mirroring.exists_videoCell hle
      cases hcell.symm.trans htarget
    rw [writePpu_of_lt console hlt]
    cases cell with
    | nametable | palette => rfl

theorem videoByte_readPpu (console : Console) (addr : UInt16) (cell : VideoCell) :
    (console.readPpu addr).2.videoByte cell = console.videoByte cell := by
  by_cases hlt : addr.toNat % 0x4000 < 0x2000
  · rw [readPpu_of_lt console hlt]
    cases cell with
    | nametable | palette => rfl
  · rw [readPpu_of_le console (Nat.le_of_not_lt hlt)]

theorem videoByte_writeCpu (console : Console) (addr : UInt16) (data : UInt8) (cell : VideoCell) :
    (console.writeCpu addr data).videoByte cell = console.videoByte cell := by
  obtain ⟨ram, wram, seen, heq⟩ := console.exists_writeCpu addr data
  rw [heq]
  cases cell with
  | nametable | palette => rfl

theorem videoByte_writeAll (console : Console) (writes : List RegisterWrite) (cell : VideoCell) :
    (Bus.writeAll console writes).videoByte cell = console.videoByte cell := by
  induction writes generalizing console with
  | nil => rfl
  | cons w rest ih =>
    rw [Bus.writeAll_cons, ih]
    exact console.videoByte_writeCpu w.addr w.data cell

theorem videoByte_tick (console : Console) (cycles : Nat) (cell : VideoCell) :
    (console.tick cycles).videoByte cell = console.videoByte cell := by
  cases cell with
  | nametable | palette => rfl

end Console

namespace Session

theorem videoByte_request (session : Session Console) (req : Request) (cell : VideoCell) :
    (session.request req).2.bus.videoByte cell = session.bus.videoByte cell := by
  unfold request
  split
  next => exact session.bus.videoByte_writeAll _ cell
  next => rfl

theorem videoByte_restore (session : Session Console) (saved : UInt8) (cell : VideoCell) :
    (session.restore saved).bus.videoByte cell = session.bus.videoByte cell :=
  session.bus.videoByte_writeAll _ cell

end Session

/-! ## Histories -/

/-- The byte that an action stores in a cell, by the mirroring that it meets. -/
def Action.videoStored? (cell : VideoCell) (session : Session Console) : Action → Option UInt8
  | writePpu addr data =>
    if session.bus.cart.mirroring.videoCell? addr = some cell then some data else none
  | _ => none

/-- The byte last stored in a cell in a run, given as actions with the sessions they met. -/
def lastInCell (cell : VideoCell) (met : List (Session Console × Action)) : Option UInt8 :=
  latest? (fun (session, action) => action.videoStored? cell session) met

theorem lastInCell_append (cell : VideoCell) (met : List (Session Console × Action))
    (session : Session Console) (action : Action) :
    lastInCell cell (met ++ [(session, action)]) =
      (action.videoStored? cell session).or (lastInCell cell met) :=
  latest?_append ..

/-- Of all actions only PPU writes reach a cell. -/
theorem Action.videoByte_perform (action : Action) (session : Session Console)
    (cell : VideoCell) :
    (action.perform session).2.bus.videoByte cell =
      (action.videoStored? cell session).getD (session.bus.videoByte cell) := by
  cases action with
  | request req => exact session.videoByte_request req cell
  | readCpu addr => rfl
  | writeCpu addr data => exact session.bus.videoByte_writeCpu addr data cell
  | readPpu addr => exact session.bus.videoByte_readPpu addr cell
  | tick cycles => exact session.bus.videoByte_tick cycles cell
  | writePpu addr data =>
    refine (session.bus.videoByte_writePpu addr data cell).trans ?_
    rw [videoStored?]
    split
    next => rfl
    next => rfl

theorem Script.videoByte_run (script : Script Action) (session : Session Console)
    (cell : VideoCell) :
    (script.run Action.perform session).2.bus.videoByte cell =
      (lastInCell cell (script.steps Action.perform session)).getD
        (session.bus.videoByte cell) := by
  have hstep : ∀ (action : Action) (met : List (Session Console × Action)) (now : Session Console),
      now.bus.videoByte cell = (lastInCell cell met).getD (session.bus.videoByte cell) →
        (action.perform now).2.bus.videoByte cell =
          (lastInCell cell (met ++ [(now, action)])).getD (session.bus.videoByte cell) := by
    intro action met now hnow
    rw [action.videoByte_perform, hnow, lastInCell_append]
    cases action.videoStored? cell now with
    | none => rfl
    | some data => rfl
  exact run_preserves_steps
    (fun met _ now =>
      now.bus.videoByte cell = (lastInCell cell met).getD (session.bus.videoByte cell))
    (fun action _ met _ now => hstep action met now)
    (fun _ _ _ _ _ after _ hafter => (after.videoByte_restore _ cell).trans hafter)
    script.forall_true [] [] session rfl

/-! ## Who shares a cell -/

/-- Two accesses, each under the mirroring in force at its time, reach one cell. -/
def Shares (mode : Mirroring) (addr : UInt16) (mode' : Mirroring) (addr' : UInt16) : Prop :=
  ∃ cell, mode.videoCell? addr = some cell ∧ mode'.videoCell? addr' = some cell

/-- The mirroring joins the nametables at two addresses, and they are at the same place in them. -/
def Mirroring.Joins (mode : Mirroring) (addr addr' : UInt16) : Prop :=
  match mode with
  | .vertical => addr.toNat % 0x800 = addr'.toNat % 0x800
  | .horizontal =>
    addr.toNat % 0x400 = addr'.toNat % 0x400 ∧ addr.toNat / 0x800 % 2 = addr'.toNat / 0x800 % 2
  | .oneScreenLower | .oneScreenUpper => addr.toNat % 0x400 = addr'.toNat % 0x400
  | .fourScreen => addr.toNat % 0x1000 = addr'.toNat % 0x1000

/-- Which accesses reach one cell, by where they go and by the mirroring at their times. -/
structure SharesAsWired (mode mode' : Mirroring) (addr addr' : UInt16) : Prop where
  palette : InPalette addr → InPalette addr' →
    (Shares mode addr mode' addr' ↔ addr.toNat % 32 = addr'.toNat % 32 ∨
      addr.toNat % 16 = addr'.toNat % 16 ∧ addr.toNat % 4 = 0 ∧ addr'.toNat % 4 = 0)
  /-- The palette is a memory of its own. -/
  apart : InPalette addr → InTables addr' → ¬ Shares mode addr mode' addr'
  tables : InTables addr → InTables addr' →
    (Shares mode addr mode' addr' ↔
      mode.cell (Console.ppuAddr addr) = mode'.cell (Console.ppuAddr addr'))
  joined : mode' = mode → InTables addr → InTables addr' →
    (Shares mode addr mode' addr' ↔ mode.Joins addr addr')
  screens : mode = .oneScreenLower → mode' = .oneScreenUpper → InTables addr → InTables addr' →
    ¬ Shares mode addr mode' addr'

theorem shares_iff {mode mode' : Mirroring} {addr addr' : UInt16} {cell cell' : VideoCell}
    (h : mode.videoCell? addr = some cell) (h' : mode'.videoCell? addr' = some cell') :
    Shares mode addr mode' addr' ↔ cell = cell' := by
  rw [Shares, h, h']
  constructor
  · rintro ⟨shared, heq, heq'⟩
    exact (Option.some.inj heq).trans (Option.some.inj heq').symm
  · rintro rfl
    exact ⟨cell, rfl, rfl⟩

theorem shares_tables_iff {mode mode' : Mirroring} {addr addr' : UInt16} (h : InTables addr)
    (h' : InTables addr') :
    Shares mode addr mode' addr' ↔
      mode.cell (Console.ppuAddr addr) = mode'.cell (Console.ppuAddr addr') := by
  rw [shares_iff (mode.videoCell?_of_tables h) (mode'.videoCell?_of_tables h')]
  simp only [VideoCell.nametable.injEq, Fin.mk.injEq]

theorem toNat_paletteEntry_ppuAddr (addr : UInt16) :
    (Console.paletteEntry (Console.ppuAddr addr)).val =
      if 16 ≤ addr.toNat % 32 ∧ addr.toNat % 4 = 0 then addr.toNat % 32 - 16
      else addr.toNat % 32 := by
  simp only [Console.paletteEntry, Fin.val_ofNat, Console.toNat_ppuAddr]
  split <;> split <;> omega

theorem shares_palette_iff {mode mode' : Mirroring} {addr addr' : UInt16} (h : InPalette addr)
    (h' : InPalette addr') :
    Shares mode addr mode' addr' ↔ addr.toNat % 32 = addr'.toNat % 32 ∨
      addr.toNat % 16 = addr'.toNat % 16 ∧ addr.toNat % 4 = 0 ∧ addr'.toNat % 4 = 0 := by
  rw [shares_iff (mode.videoCell?_of_palette h) (mode'.videoCell?_of_palette h')]
  simp only [VideoCell.palette.injEq, Fin.ext_iff, toNat_paletteEntry_ppuAddr]
  split <;> split <;> omega

/-- Within the lines that the PPU has, the nametables repeat every 4 KiB. -/
theorem tableOffset_ppuAddr {addr : UInt16} (h : InTables addr) :
    ((Console.ppuAddr addr).toNat - 0x2000) % 0x1000 = addr.toNat % 0x1000 := by
  obtain ⟨hlow, -⟩ := h
  rw [Console.toNat_ppuAddr]
  omega

/-- The table and the place in it are read off the offset in the 4 KiB of nametables. -/
theorem tableOffset_fields (addr : UInt16) :
    addr.toNat % 0x800 = addr.toNat % 0x1000 % 0x800 ∧
      addr.toNat % 0x400 = addr.toNat % 0x1000 % 0x400 ∧
      addr.toNat / 0x800 % 2 = addr.toNat % 0x1000 / 0x800 := by
  omega

theorem cell_ppuAddr_eq_iff (mode : Mirroring) {addr addr' : UInt16} (h : InTables addr)
    (h' : InTables addr') :
    mode.cell (Console.ppuAddr addr) = mode.cell (Console.ppuAddr addr') ↔
      mode.Joins addr addr' := by
  obtain ⟨hhalf, hplace, hscreen⟩ := tableOffset_fields addr
  obtain ⟨hhalf', hplace', hscreen'⟩ := tableOffset_fields addr'
  have hlt : addr.toNat % 0x1000 < 0x1000 := Nat.mod_lt _ (by decide)
  have hlt' : addr'.toNat % 0x1000 < 0x1000 := Nat.mod_lt _ (by decide)
  simp only [Mirroring.cell, Mirroring.Joins, tableOffset_ppuAddr h, tableOffset_ppuAddr h',
    hhalf, hplace, hscreen, hhalf', hplace', hscreen']
  -- From here on only the offsets count.
  clear hhalf hplace hscreen hhalf' hplace' hscreen'
  generalize addr.toNat % 0x1000 = offset at hlt ⊢
  generalize addr'.toNat % 0x1000 = offset' at hlt' ⊢
  cases mode with
  | vertical | horizontal | oneScreenLower | oneScreenUpper | fourScreen =>
    dsimp only
    omega

theorem sharesAsWired (mode mode' : Mirroring) (addr addr' : UInt16) :
    SharesAsWired mode mode' addr addr' where
  palette := shares_palette_iff
  apart h h' := by
    rw [shares_iff (mode.videoCell?_of_palette h) (mode'.videoCell?_of_tables h')]
    exact nofun
  tables := shares_tables_iff
  joined hmode h h' := by
    rw [shares_tables_iff h h', hmode]
    exact cell_ppuAddr_eq_iff mode h h'
  screens hlower hupper h h' := by
    rw [shares_tables_iff h h', hlower, hupper]
    -- The lower screen ends where the upper one starts.
    simp only [Mirroring.cell]
    omega

/-! ## Addresses from `$3000` on -/

/-- The address is that of a nametable in its second copy. -/
def InRepeatedTables (addr : UInt16) : Prop :=
  0x3000 ≤ addr.toNat % 0x4000 ∧ addr.toNat % 0x4000 < 0x3F00

theorem videoCell?_sub {addr : UInt16} (h : InRepeatedTables addr) (mode : Mirroring) :
    mode.videoCell? addr = mode.videoCell? (addr - 0x1000) := by
  obtain ⟨hlow, hhigh⟩ := h
  have hsub : (addr - 0x1000).toNat = addr.toNat - 0x1000 :=
    UInt16.toNat_sub_of_le _ _ (UInt16.le_iff_toNat_le.mpr (by show 0x1000 ≤ _; omega))
  have htables : InTables addr := ⟨by omega, hhigh⟩
  have htables' : InTables (addr - 0x1000) := ⟨by rw [hsub]; omega, by rw [hsub]; omega⟩
  have hoffset : (addr - 0x1000).toNat % 0x1000 = addr.toNat % 0x1000 := by rw [hsub]; omega
  have hcell : mode.cell (Console.ppuAddr addr) = mode.cell (Console.ppuAddr (addr - 0x1000)) := by
    simp only [Mirroring.cell, tableOffset_ppuAddr htables, tableOffset_ppuAddr htables', hoffset]
  rw [mode.videoCell?_of_tables htables, mode.videoCell?_of_tables htables']
  simp only [hcell]

namespace Console

theorem readPpu_sub (console : Console) {addr : UInt16} (h : InRepeatedTables addr) :
    console.readPpu addr = console.readPpu (addr - 0x1000) := by
  obtain ⟨cell, hcell⟩ := console.cart.mirroring.exists_videoCell (Nat.le_trans (by decide) h.1)
  rw [console.readPpu_of_cell hcell,
    console.readPpu_of_cell ((videoCell?_sub h _).symm.trans hcell)]

theorem writePpu_sub (console : Console) {addr : UInt16} (h : InRepeatedTables addr)
    (data : UInt8) : console.writePpu addr data = console.writePpu (addr - 0x1000) data := by
  obtain ⟨cell, hcell⟩ := console.cart.mirroring.exists_videoCell (Nat.le_trans (by decide) h.1)
  exact console.writePpu_eq_of_cell hcell ((videoCell?_sub h _).symm.trans hcell) data

end Console

/-! ## The store -/

/-- Any cartridge in a console with a controller of any board, and any run of accesses and requests:
above pattern memory the PPU reads the byte last written to the cell that it reaches under the
present mirroring, or 0. Which accesses share a cell is a matter of their addresses and of the
mirroring in force at each (`SharesAsWired`); changing the mirroring changes no cell, nor does
anything else but a PPU write; and the nametables repeat from `$3000` on. -/
theorem video_memory_is_mirrored_store (board : Board) (cart : Cartridge)
    (script : Script Action) :
    let start := Session.start board (Console.powerOn cart)
    let now := (script.run Action.perform start).2.bus
    (∀ addr : UInt16, 0x2000 ≤ addr.toNat % 0x4000 →
      ∃ cell, now.cart.mirroring.videoCell? addr = some cell ∧
        (now.readPpu addr).1 =
          (lastInCell cell (script.steps Action.perform start)).getD 0) ∧
      (∀ mode mode' addr addr', SharesAsWired mode mode' addr addr') ∧
      (∀ (session : Session Console) (action : Action),
        (∀ addr data, action ≠ .writePpu addr data) →
          ∀ cell, (action.perform session).2.bus.videoByte cell = session.bus.videoByte cell) ∧
      ∀ (console : Console) (addr : UInt16), InRepeatedTables addr →
        console.readPpu addr = console.readPpu (addr - 0x1000) ∧
          ∀ data, console.writePpu addr data = console.writePpu (addr - 0x1000) data := by
  intro start now
  refine ⟨fun addr haddr => ?_, sharesAsWired, fun session action haction cell => ?_,
    fun console addr haddr => ⟨console.readPpu_sub haddr, console.writePpu_sub haddr⟩⟩
  · obtain ⟨cell, hcell⟩ := now.cart.mirroring.exists_videoCell haddr
    have hrun := script.videoByte_run start cell
    have hzero : start.bus.videoByte cell = 0 := Console.videoByte_powerOn cart cell
    rw [hzero] at hrun
    refine ⟨cell, hcell, ?_⟩
    rw [now.readPpu_of_cell hcell]
    exact hrun
  · rw [action.videoByte_perform]
    cases action with
    | writePpu addr data => exact absurd rfl (haction addr data)
    | request | readCpu | writeCpu | readPpu | tick => rfl

/-- Written to the second of two vertical nametables, a byte is on the upper screen; the backdrop of
the sprite palettes is that of the background. -/
theorem video_memory_is_mirrored_store_fme7 :
    let cart := Cartridge.ofParts .fme7 (taggedPrg 0x8000) (.ram 0x2000) .vertical
    let start := Session.start .fme7 (Console.powerOn cart)
    let script : Script Action :=
      .act (.request .bringUp)
        (.act (.writePpu 0x2400 0x5A)
          (.act (.writePpu 0x3F10 0x21)
            (.act (.request (.setMirroring .oneScreenUpper)) .done)))
    let now := (script.run Action.perform start).2.bus
    (now.readPpu 0x3800).1 = 0x5A ∧ (now.readPpu 0x3F00).1 = 0x21 := by
  intro cart start script now
  obtain ⟨hstore, -⟩ := video_memory_is_mirrored_store .fme7 cart script
  obtain ⟨cell, hcell, hread⟩ := hstore 0x3800 (by decide)
  obtain ⟨entry, hentry, hread'⟩ := hstore 0x3F00 (by decide)
  have hupper : now.cart.mirroring.videoCell? 0x3800 = some (.nametable 0x400) := by
    decide +kernel
  have hbackdrop : now.cart.mirroring.videoCell? 0x3F00 = some (.palette 0) := by
    decide +kernel
  cases hcell.symm.trans hupper
  cases hentry.symm.trans hbackdrop
  exact ⟨hread.trans (by decide +kernel), hread'.trans (by decide +kernel)⟩

end NesCartridge
