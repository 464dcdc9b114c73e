/-
  NesCartridge.Proofs.RegisterWrites

  Which bytes a controller puts on the bus. Every write goes to a register that the registry
  lists, or on boards with bus conflicts to the identity table at the place of its own value, and
  a byte for the select register names a register that the board has (`Board.emits_of_answers`).
-/
import NesCartridge.Proofs.BitField
import NesCartridge.Proofs.Responses

namespace NesCartridge

/-- The mirroring register of MMC2, MMC3 and MMC4 tells the two-screen modes apart. -/
theorem Mirroring.of_horizontalBit {mode : Mirroring}
    (h : MirroringSet.twoScreen.contains mode = true) :
    (if mode.horizontalBit &&& 1 == 1 then Mirroring.horizontal else .vertical) = mode := by
  cases mode with
  | vertical | horizontal => decide
  | oneScreenLower | oneScreenUpper | fourScreen => cases h

namespace Board

/-- Bits that the controller uses of the select register. -/
def selectMask : Board → UInt8
  | .mmc3 => 0x07
  | .action53 => 0x81
  | .fme7 => 0x0F
  | _ => 0x00

/-- The byte names a register of the board. -/
def IsSelect (board : Board) (byte : UInt8) : Prop :=
  byte &&& board.selectMask = byte

instance (board : Board) (byte : UInt8) : Decidable (board.IsSelect byte) :=
  inferInstanceAs (Decidable (_ = _))

/-- Addresses of the board's registers. -/
def addresses (board : Board) : List UInt16 :=
  board.descriptor.registers.map (·.addr)

/-- The write goes to a register of the board, or where the ROM drives the data lines too, to the
identity table at the place of its own value. -/
def Lists (board : Board) (w : RegisterWrite) : Prop :=
  if board.descriptor.busConflicts then w.addr = Address.identityTable + w.data.toUInt16
  else w.addr ∈ board.addresses

/-- A write that a controller of this board may make. -/
structure Emits (board : Board) (w : RegisterWrite) : Prop where
  addr : if board.descriptor.busConflicts then w.addr = Address.identityTable + w.data.toUInt16
    else w.addr ∈ board.addresses
  select : board.selectAddr? = some w.addr → board.IsSelect w.data

/-- Writes to registers other than the select register need no look at the data. -/
theorem emits_of_mem {board : Board} {w : RegisterWrite}
    (hconflicts : board.descriptor.busConflicts = false) (hmem : w.addr ∈ board.addresses)
    (hselect : board.selectAddr? ≠ some w.addr) : board.Emits w where
  addr := by rwa [hconflicts]
  select h := absurd h hselect

theorem emits_of_mem_single {board : Board} (addr : UInt16) {data : UInt8}
    (hconflicts : board.descriptor.busConflicts = false) (haddr : addr ∈ board.addresses)
    (hselect : board.selectAddr? ≠ some addr) {w : RegisterWrite}
    (hw : w ∈ [(⟨addr, data⟩ : RegisterWrite)]) : board.Emits w := by
  rw [List.mem_singleton] at hw
  subst hw
  exact emits_of_mem hconflicts haddr hselect

/-- A select byte followed by data for the register that it names. -/
theorem emits_of_mem_pairWrites {board : Board} {select data : UInt16} {register value : UInt8}
    (hconflicts : board.descriptor.busConflicts = false)
    (hselect : select ∈ board.addresses) (hdata : data ∈ board.addresses)
    (hne : board.selectAddr? ≠ some data) (hregister : board.IsSelect register)
    {w : RegisterWrite} (hw : w ∈ pairWrites select data register value) : board.Emits w := by
  rw [pairWrites, List.mem_cons, List.mem_singleton] at hw
  rcases hw with rfl | rfl
  · exact ⟨by rwa [hconflicts], fun _ => hregister⟩
  · exact emits_of_mem hconflicts hdata hne

theorem emits_of_mem_mmc3Writes {register value : UInt8} (h : Board.mmc3.IsSelect register)
    {w : RegisterWrite} (hw : w ∈ mmc3Writes register value) : Board.mmc3.Emits w :=
  emits_of_mem_pairWrites rfl (by decide) (by decide) (by decide) h hw

theorem emits_of_mem_fme7Writes {register value : UInt8} (h : Board.fme7.IsSelect register)
    {w : RegisterWrite} (hw : w ∈ fme7Writes register value) : Board.fme7.Emits w :=
  emits_of_mem_pairWrites rfl (by decide) (by decide) (by decide) h hw

theorem emits_of_mem_action53Writes {register value : UInt8}
    (h : Board.action53.IsSelect register) {w : RegisterWrite}
    (hw : w ∈ action53Writes register value) : Board.action53.Emits w :=
  emits_of_mem_pairWrites rfl (by decide) (by decide) (by decide) h hw

theorem emits_of_mem_serialWrites {addr : UInt16} {value : UInt8}
    (haddr : addr ∈ Board.mmc1.addresses) {w : RegisterWrite}
    (hw : w ∈ serialWrites addr value) : Board.mmc1.Emits w := by
  obtain ⟨i, -, rfl⟩ := List.mem_map.mp hw
  have hnone : Board.mmc1.selectAddr? = none := rfl
  exact emits_of_mem rfl haddr (by rw [hnone]; simp)

/-- What the registry says of a board with a latch: no select register, and the latch among its
registers. -/
theorem latch_mem_addresses {board : Board} {layout : LatchLayout}
    (h : board.descriptor.latch = some layout) :
    board.selectAddr? = none ∧ Address.latch ∈ board.addresses := by
  cases board with
  | nrom | mmc1 | mmc2 | mmc3 | mmc4 | action53 | fme7 => cases h
  | uxRom | cnRom | axRom | colorDreams | unrom512 | bnRom | gnRom => exact ⟨rfl, by decide⟩

/-- A latch write goes to the latch, or to where the ROM agrees with it. -/
theorem emits_of_mem_discreteWrites {board : Board} (shadow : Shadow) {w : RegisterWrite}
    (hw : w ∈ board.discreteWrites shadow) : board.Emits w := by
  unfold discreteWrites at hw
  split at hw
  next layout hlayout =>
    obtain ⟨hselect, hlatch⟩ := latch_mem_addresses hlayout
    have hno : board.selectAddr? ≠ some w.addr := by rw [hselect]; simp
    unfold latchWrites at hw
    -- With bus conflicts the address depends on the byte, and no registry lists it.
    cases hconflicts : board.descriptor.busConflicts with
    | true =>
      rw [hconflicts, if_pos rfl, List.mem_singleton] at hw
      subst hw
      exact ⟨by rw [hconflicts, if_pos rfl], fun h => absurd h hno⟩
    | false =>
      rw [hconflicts, if_neg (by decide), List.mem_singleton] at hw
      subst hw
      exact emits_of_mem hconflicts hlatch hno
  next => cases hw

/-! ## The writes of each request -/

theorem isSelect_of_lt {board : Board} (bits : Nat) {number : Nat} (hnumber : number < 2 ^ bits)
    (hbits : bits ≤ 8) (hmask : board.selectMask.toNat = 2 ^ bits - 1) :
    board.IsSelect (UInt8.ofNat number) :=
  ofNat_and_of_lt bits hnumber hbits hmask

theorem isSelect_mmc3 {number : Nat} (h : number < 8) : Board.mmc3.IsSelect (UInt8.ofNat number) :=
  isSelect_of_lt 3 h (by omega) rfl

theorem isSelect_fme7 {number : Nat} (h : number < 16) :
    Board.fme7.IsSelect (UInt8.ofNat number) :=
  isSelect_of_lt 4 h (by omega) rfl

theorem emits_of_mem_prgWrites {board : Board} {shadow : Shadow} {number : Nat}
    (hnumber : number < board.descriptor.prgWindows.length) {w : RegisterWrite}
    (hw : w ∈ board.prgWrites shadow number) : board.Emits w := by
  cases board with
  | mmc1 => exact emits_of_mem_serialWrites (by decide) hw
  | mmc3 =>
    have hlt : 6 + number < 8 := Nat.add_lt_add_left hnumber 6
    exact emits_of_mem_mmc3Writes (isSelect_mmc3 hlt) hw
  | mmc2 | mmc4 =>
    exact emits_of_mem_single _ rfl (by decide) (by decide) hw
  | fme7 =>
    have hlt : 9 + number < 16 := by
      have : number < 3 := hnumber
      omega
    exact emits_of_mem_fme7Writes (isSelect_fme7 hlt) hw
  | action53 => exact emits_of_mem_action53Writes (by decide) hw
  | nrom | uxRom | cnRom | axRom | colorDreams | unrom512 | bnRom | gnRom =>
    exact emits_of_mem_discreteWrites shadow hw

theorem tileLatchAddr_mem_addresses (number : Nat) :
    tileLatchAddr number ∈ tileLatchRegisters.map (·.addr) := by
  unfold tileLatchAddr
  split <;> decide

theorem emits_of_mem_chrWrites {board : Board} {shadow : Shadow} {number : Nat}
    (hnumber : number < board.descriptor.chrWindows.length) {w : RegisterWrite}
    (hw : w ∈ board.chrWrites shadow number) : board.Emits w := by
  cases board with
  | mmc1 =>
    refine emits_of_mem_serialWrites ?_ hw
    split <;> decide
  | mmc3 =>
    have hlt : number < 8 := Nat.lt_of_lt_of_le hnumber (by decide)
    exact emits_of_mem_mmc3Writes (isSelect_mmc3 hlt) hw
  | mmc2 | mmc4 =>
    refine emits_of_mem_single _ rfl (tileLatchAddr_mem_addresses number) ?_ hw
    intro h
    have hnone : none = some (tileLatchAddr number) := h
    cases hnone
  | fme7 =>
    have hlt : number < 16 := Nat.lt_of_lt_of_le hnumber (by decide)
    exact emits_of_mem_fme7Writes (isSelect_fme7 hlt) hw
  | action53 => exact emits_of_mem_action53Writes (by decide) hw
  | nrom | uxRom | cnRom | axRom | colorDreams | unrom512 | bnRom | gnRom =>
    exact emits_of_mem_discreteWrites shadow hw

theorem emits_of_mem_mirroringWrites {board : Board} {shadow : Shadow} {w : RegisterWrite}
    (hw : w ∈ board.mirroringWrites shadow) : board.Emits w := by
  cases board with
  | mmc1 => exact emits_of_mem_serialWrites (by decide) hw
  | mmc3 | mmc2 | mmc4 =>
    exact emits_of_mem_single _ rfl (by decide) (by decide) hw
  | fme7 => exact emits_of_mem_fme7Writes (by decide) hw
  | action53 => exact emits_of_mem_action53Writes (by decide) hw
  | nrom | uxRom | cnRom | axRom | colorDreams | unrom512 | bnRom | gnRom =>
    exact emits_of_mem_discreteWrites shadow hw

theorem emits_of_mem_wramWrites {board : Board} {shadow : Shadow} {w : RegisterWrite}
    (hw : w ∈ board.wramWrites shadow) : board.Emits w := by
  cases board with
  | mmc1 => exact emits_of_mem_serialWrites (by decide) hw
  | mmc3 =>
    exact emits_of_mem_single Address.mmc3WramProtect rfl (by decide) (by decide) hw
  | fme7 => exact emits_of_mem_fme7Writes (by decide) hw
  | _ => cases hw

/-- Only MMC3 and FME-7 have a counter to arm. -/
theorem emits_of_mem_armWrites {board : Board} {count : Nat} {enabled : Bool} {w : RegisterWrite}
    (hw : w ∈ board.armWrites count enabled) : board.Emits w := by
  cases board with
  | mmc3 =>
    simp only [armWrites, List.mem_append, List.mem_cons, List.not_mem_nil, or_false] at hw
    rcases hw with (rfl | rfl | rfl) | hw
    · exact emits_of_mem_single Address.mmc3IrqPeriod rfl (by decide) (by decide)
        (List.mem_singleton.mpr rfl)
    · exact emits_of_mem rfl (by decide) (by decide)
    · exact emits_of_mem rfl (by decide) (by decide)
    · split at hw
      · exact emits_of_mem_single Address.mmc3IrqEnable rfl (by decide) (by decide) hw
      · cases hw
  | fme7 =>
    simp only [armWrites, List.mem_append] at hw
    rcases hw with ((hw | hw) | hw) | hw
    · exact emits_of_mem_fme7Writes (by decide) hw
    · exact emits_of_mem_fme7Writes (by decide) hw
    · exact emits_of_mem_fme7Writes (by decide) hw
    · split at hw
      · exact emits_of_mem_fme7Writes (by decide) hw
      · cases hw
  | _ => cases hw

theorem emits_of_mem_acknowledgeWrites {board : Board} {w : RegisterWrite}
    (hw : w ∈ board.acknowledgeWrites) : board.Emits w := by
  cases board with
  | mmc3 =>
    simp only [acknowledgeWrites, List.mem_cons, List.not_mem_nil, or_false] at hw
    rcases hw with rfl | rfl <;> exact emits_of_mem rfl (by decide) (by decide)
  | fme7 => exact emits_of_mem_fme7Writes (by decide) hw
  | _ => cases hw

theorem emits_of_mem_bringUpWrites {board : Board} {w : RegisterWrite}
    (hw : w ∈ board.bringUpWrites) : board.Emits w := by
  cases board with
  | mmc1 =>
    simp only [bringUpWrites, List.mem_cons, List.mem_append] at hw
    rcases hw with rfl | ((hw | hw) | hw) | hw
    · exact emits_of_mem rfl (by decide) (by decide)
    · exact emits_of_mem_mirroringWrites hw
    · exact emits_of_mem_chrWrites (by decide) hw
    · exact emits_of_mem_chrWrites (by decide) hw
    · exact emits_of_mem_prgWrites (by decide) hw
  | mmc3 =>
    simp only [bringUpWrites, List.mem_append, List.mem_flatMap, List.mem_range] at hw
    rcases hw with ((⟨r, hr, hw⟩ | hw) | hw) | hw
    · exact emits_of_mem_mmc3Writes (isSelect_mmc3 hr) hw
    · exact emits_of_mem_mirroringWrites hw
    · exact emits_of_mem_wramWrites hw
    · exact emits_of_mem_single _ rfl (by decide) (by decide) hw
  | mmc2 | mmc4 =>
    simp only [bringUpWrites, List.mem_append, List.mem_flatMap, List.mem_range] at hw
    rcases hw with (hw | ⟨number, hnumber, hw⟩) | hw
    · exact emits_of_mem_prgWrites (by decide) hw
    · exact emits_of_mem_chrWrites hnumber hw
    · exact emits_of_mem_mirroringWrites hw
  | fme7 =>
    simp only [bringUpWrites, List.mem_append, List.mem_flatMap, List.mem_range] at hw
    rcases hw with (((⟨number, hnumber, hw⟩ | hw) | ⟨number, hnumber, hw⟩) | hw) | hw
    · exact emits_of_mem_chrWrites hnumber hw
    · exact emits_of_mem_wramWrites hw
    · exact emits_of_mem_prgWrites hnumber hw
    · exact emits_of_mem_mirroringWrites hw
    · exact emits_of_mem_fme7Writes (by decide) hw
  | action53 =>
    simp only [bringUpWrites, List.mem_append] at hw
    rcases hw with ((hw | hw) | hw) | hw
    · exact emits_of_mem_mirroringWrites hw
    · exact emits_of_mem_action53Writes (by decide) hw
    · exact emits_of_mem_chrWrites (by decide) hw
    · exact emits_of_mem_prgWrites (by decide) hw
  | nrom => cases hw
  | uxRom | cnRom | axRom | colorDreams | unrom512 | bnRom | gnRom =>
    exact emits_of_mem_discreteWrites (.atBringUp _) hw

/-- Whatever is accepted, the writes are ones that the board lists. -/
theorem emits_of_answers {board : Board} {shadow after : Shadow} {req : Request}
    {writes : List RegisterWrite} (h : board.Answers shadow req after writes)
    {w : RegisterWrite} (hw : w ∈ writes) : board.Emits w := by
  cases h with
  | bringUp => exact emits_of_mem_bringUpWrites hw
  | selectPrg hwindow => exact emits_of_mem_prgWrites (List.getElem?_eq_some_iff.mp hwindow).1 hw
  | selectChr hwindow => exact emits_of_mem_chrWrites (List.getElem?_eq_some_iff.mp hwindow).1 hw
  | setMirroring => exact emits_of_mem_mirroringWrites hw
  | setWram => exact emits_of_mem_wramWrites hw
  | configureIrq => exact emits_of_mem_armWrites hw
  | acknowledgeIrq => exact emits_of_mem_acknowledgeWrites hw

/-- The registry declares the select register where the controller writes it, and on no other
board. -/
theorem register?_select (board : Board) :
    board.descriptor.register? .select = board.selectAddr? := by
  cases board <;> rfl

/-- Boards with a select register list it and have no bus conflicts. -/
theorem select_mem_addresses {board : Board} {addr : UInt16} (h : board.selectAddr? = some addr) :
    board.descriptor.busConflicts = false ∧ addr ∈ board.addresses := by
  refine ⟨?_, Descriptor.mem_of_register? (board.register?_select.trans h)⟩
  cases board with
  | mmc3 | action53 | fme7 => rfl
  | _ => cases h

theorem emits_select {board : Board} {addr : UInt16} (haddr : board.selectAddr? = some addr)
    {byte : UInt8} (hbyte : board.IsSelect byte) : board.Emits ⟨addr, byte⟩ := by
  obtain ⟨hconflicts, hmem⟩ := select_mem_addresses haddr
  exact ⟨by rwa [hconflicts], fun _ => hbyte⟩

end Board

/-- The byte that the controller notes names a register of the board again. -/
theorem Controller.isSelect_selectAfter {ctl : Controller}
    (hselect : ctl.board.IsSelect ctl.select) {writes : List RegisterWrite}
    (hw : ∀ w ∈ writes, ctl.board.Emits w) : ctl.board.IsSelect (ctl.selectAfter writes) := by
  rw [selectAfter]
  -- The fold starts from any byte that is in order, not only from the one noted at first.
  generalize ctl.select = select at hselect
  induction writes generalizing select with
  | nil => exact hselect
  | cons w rest ih =>
    have hfirst := hw w (List.mem_cons_self ..)
    apply ih (fun w hw' => hw w (List.mem_cons_of_mem _ hw')) _
    show ctl.board.IsSelect (if ctl.board.selectAddr? = some w.addr then w.data else select)
    split
    next haddr => exact hfirst.select haddr
    next => exact hselect

end NesCartridge
