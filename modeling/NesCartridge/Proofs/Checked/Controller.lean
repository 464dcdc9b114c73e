/-
  NesCartridge.Proofs.Checked.Controller

  The controller with every step checked that can fail: the places of its bank notes, the role
  table of MMC2 and MMC4, register numbers and table addresses that have to fit their types, and
  shifts by bit and field positions. Main statement: on a sound console a controller of any board,
  be it that of the cartridge or another, carries out or refuses every request without a trap, and
  the session stays sound (`Session.Sound.request`).
-/
import NesCartridge.Proofs.Checked.Console
import NesCartridge.Proofs.Refusals

namespace NesCartridge

open Checked

/-! ## Writes -/

namespace BitField

def checkedInsert (field : BitField) (latch value : UInt8) : Checked UInt8 := do
  if field.isPresent then
    let moved := UInt8.ofNat (← shiftLeft 8 value.toNat field.shift)
    return (latch &&& ~~~field.mask) ||| (moved &&& field.mask)
  else return latch

/-- A field that is there has its lowest bit in the byte. -/
theorem shift_lt {field : BitField} (h : field.isPresent = true) : field.shift < 8 := by
  obtain ⟨mask⟩ := field
  revert h
  exact forall_byte (P := fun mask => isPresent ⟨mask⟩ = true → shift ⟨mask⟩ < 8)
    (by decide +kernel) mask

theorem checkedInsert_eq (field : BitField) (latch value : UInt8) :
    field.checkedInsert latch value = .ok (field.insert latch value) := by
  rw [checkedInsert, insert]
  cases hpresent : field.isPresent with
  | true => rw [if_pos rfl, shiftLeft_eq (shift_lt hpresent)]; rfl
  | false =>
    -- Without bits the field keeps all of the latch and adds nothing.
    have hmask : field.mask = 0 := by simpa [isPresent] using hpresent
    rw [if_neg (by decide), hmask, UInt8.and_zero, UInt8.or_zero]
    exact congrArg Except.ok (UInt8.and_neg_one).symm

end BitField

/-- The latch of a discrete board, field by field. -/
def Shadow.checkedLatchByte (shadow : Shadow) (layout : LatchLayout) : Checked UInt8 := do
  let screen : UInt8 := if shadow.mode = .oneScreenUpper then 1 else 0
  let latch ← layout.screen.checkedInsert 0 screen
  let latch ← layout.chr.checkedInsert latch (UInt8.ofNat (shadow.chrBank 0))
  layout.prg.checkedInsert latch (UInt8.ofNat (shadow.prgBank 0))

theorem Shadow.checkedLatchByte_eq (shadow : Shadow) (layout : LatchLayout) :
    shadow.checkedLatchByte layout = .ok (shadow.latchByte layout) := by
  simp only [checkedLatchByte, BitField.checkedInsert_eq, ok_bind, latchByte]

/-- Place of a byte in the identity table. -/
def checkedLatchWrites (desc : Descriptor) (value : UInt8) : Checked (List RegisterWrite) := do
  if desc.busConflicts then
    return [⟨UInt16.ofNat (← fit 0x10000 (Address.identityTable.toNat + value.toNat)), value⟩]
  else return [⟨Address.latch, value⟩]

theorem checkedLatchWrites_eq (desc : Descriptor) (value : UInt8) :
    checkedLatchWrites desc value = .ok (latchWrites desc value) := by
  have hfit : Address.identityTable.toNat + value.toNat < 0x10000 := by
    have := value.toNat_lt
    show 0xFF00 + value.toNat < 0x10000
    omega
  have haddr : UInt16.ofNat (Address.identityTable.toNat + value.toNat) =
      Address.identityTable + value.toUInt16 := by
    apply UInt16.toNat_inj.mp
    rw [toNat_identityTable]
    exact UInt16.toNat_ofNat_of_lt' hfit
  rw [checkedLatchWrites, latchWrites, fit_eq hfit, ok_bind, haddr]
  split <;> rfl

/-- Bit after bit of a register value. -/
def checkedSerialWrites (addr : UInt16) (value : UInt8) : Checked (List RegisterWrite) :=
  (List.range 5).mapM fun i => return ⟨addr, UInt8.ofNat ((← shiftRight 8 value.toNat i) % 2)⟩

theorem checkedSerialWrites_eq (addr : UInt16) (value : UInt8) :
    checkedSerialWrites addr value = .ok (serialWrites addr value) := rfl

namespace Board

def checkedDiscreteWrites (board : Board) (shadow : Shadow) : Checked (List RegisterWrite) := do
  match board.descriptor.latch with
  | some layout => checkedLatchWrites board.descriptor (← shadow.checkedLatchByte layout)
  | none => return []

/-- Register numbers are bytes. -/
def checkedPrgWrites (board : Board) (shadow : Shadow) (window : Nat) :
    Checked (List RegisterWrite) := do
  let bank := UInt8.ofNat (shadow.prgBank window)
  match board with
  | .mmc1 => checkedSerialWrites Address.mmc1Prg shadow.mmc1Prg
  | .mmc3 => return mmc3Writes (UInt8.ofNat (← fit 0x100 (6 + window % 0x100))) bank
  | .mmc2 | .mmc4 => return [⟨Address.mmc2Prg, bank⟩]
  | .fme7 => return fme7Writes (UInt8.ofNat (← fit 0x100 (9 + window % 0x100))) bank
  | .action53 => return action53Writes 0x01 (bank ||| shadow.action53Screen)
  | _ => board.checkedDiscreteWrites shadow

/-- What the CHR windows of MMC2 and MMC4 are to the registry. -/
def tileLatchRoles : List RegisterRole := [.chrFd0000, .chrFe0000, .chrFd1000, .chrFe1000]

def checkedChrWrites (board : Board) (shadow : Shadow) (window : Nat) :
    Checked (List RegisterWrite) := do
  let bank := UInt8.ofNat (shadow.chrBank window)
  match board with
  | .mmc1 => checkedSerialWrites (if window = 0 then Address.mmc1Chr0 else Address.mmc1Chr1) bank
  | .mmc3 => return mmc3Writes (UInt8.ofNat window) (if window < 2 then bank <<< 1 else bank)
  | .mmc2 | .mmc4 =>
    match board.descriptor.register? (← pick tileLatchRoles.get window) with
    | some addr => return [⟨addr, bank⟩]
    | none => return []
  | .fme7 => return fme7Writes (UInt8.ofNat (← fit 0x100 (0 + window % 0x100))) bank
  | .action53 => return action53Writes 0x00 (bank ||| shadow.action53Screen)
  | _ => board.checkedDiscreteWrites shadow

def checkedMirroringWrites (board : Board) (shadow : Shadow) : Checked (List RegisterWrite) :=
  match board with
  | .mmc1 => checkedSerialWrites Address.mmc1Control shadow.mmc1Control
  | .mmc3 | .mmc2 | .mmc4 | .fme7 | .action53 => return board.mirroringWrites shadow
  | _ => board.checkedDiscreteWrites shadow

def checkedWramWrites (board : Board) (shadow : Shadow) : Checked (List RegisterWrite) :=
  match board.descriptor.wram with
  | .mmc1 => checkedSerialWrites Address.mmc1Prg shadow.mmc1Prg
  | _ => return board.wramWrites shadow

def checkedBringUpWrites (board : Board) : Checked (List RegisterWrite) := do
  let shadow := Shadow.atBringUp board
  match board with
  | .mmc1 =>
    let mirroring ← board.checkedMirroringWrites shadow
    let low ← board.checkedChrWrites shadow 0
    let high ← board.checkedChrWrites shadow 1
    let prg ← board.checkedPrgWrites shadow 0
    return ⟨Address.mmc1Control, 0x80⟩ :: (mirroring ++ low ++ high ++ prg)
  | .fme7 =>
    let chr ← (List.range 8).mapM (board.checkedChrWrites shadow)
    let wram ← board.checkedWramWrites shadow
    let prg ← (List.range 3).mapM (board.checkedPrgWrites shadow)
    let mirroring ← board.checkedMirroringWrites shadow
    return chr.flatten ++ wram ++ prg.flatten ++ mirroring ++ fme7Writes 0x0D 0
  | .mmc3 | .mmc2 | .mmc4 | .action53 => return board.bringUpWrites
  | _ => board.checkedDiscreteWrites shadow

theorem checkedDiscreteWrites_eq (board : Board) (shadow : Shadow) :
    board.checkedDiscreteWrites shadow = .ok (board.discreteWrites shadow) := by
  rw [checkedDiscreteWrites, discreteWrites]
  cases board.descriptor.latch with
  | none => rfl
  | some layout =>
    dsimp only
    rw [shadow.checkedLatchByte_eq layout, ok_bind, checkedLatchWrites_eq]

theorem checkedPrgWrites_eq {board : Board} (shadow : Shadow) {window : Nat}
    (hwindow : window < board.descriptor.prgWindows.length) :
    board.checkedPrgWrites shadow window = .ok (board.prgWrites shadow window) := by
  have hdiscrete := checkedDiscreteWrites_eq board shadow
  cases board with
  | mmc1 => exact checkedSerialWrites_eq Address.mmc1Prg shadow.mmc1Prg
  | mmc2 | mmc4 | action53 => rfl
  | mmc3 | fme7 =>
    have hlt : window < 3 := Nat.lt_of_lt_of_le hwindow (by decide)
    rw [checkedPrgWrites, Nat.mod_eq_of_lt (by omega), fit_eq (by omega)]
    rfl
  | nrom | uxRom | cnRom | axRom | colorDreams | unrom512 | bnRom | gnRom =>
    exact hdiscrete

theorem checkedChrWrites_eq {board : Board} (shadow : Shadow) {window : Nat}
    (hwindow : window < board.descriptor.chrWindows.length) :
    board.checkedChrWrites shadow window = .ok (board.chrWrites shadow window) := by
  have hdiscrete := checkedDiscreteWrites_eq board shadow
  cases board with
  | mmc1 => exact checkedSerialWrites_eq _ (UInt8.ofNat (shadow.chrBank window))
  | mmc3 | action53 => rfl
  | mmc2 | mmc4 =>
    have hlt : window < 4 := hwindow
    obtain rfl | rfl | rfl | rfl : window = 0 ∨ window = 1 ∨ window = 2 ∨ window = 3 := by omega
    all_goals rfl
  | fme7 =>
    have hlt : window < 8 := hwindow
    rw [checkedChrWrites, Nat.mod_eq_of_lt (by omega), Nat.zero_add, fit_eq (by omega)]
    rfl
  | nrom | uxRom | cnRom | axRom | colorDreams | unrom512 | bnRom | gnRom =>
    exact hdiscrete

theorem checkedMirroringWrites_eq (board : Board) (shadow : Shadow) :
    board.checkedMirroringWrites shadow = .ok (board.mirroringWrites shadow) := by
  have hdiscrete := checkedDiscreteWrites_eq board shadow
  cases board with
  | mmc1 => exact checkedSerialWrites_eq Address.mmc1Control shadow.mmc1Control
  | mmc3 | mmc2 | mmc4 | fme7 | action53 => rfl
  | nrom | uxRom | cnRom | axRom | colorDreams | unrom512 | bnRom | gnRom =>
    exact hdiscrete

theorem checkedWramWrites_eq (board : Board) (shadow : Shadow) :
    board.checkedWramWrites shadow = .ok (board.wramWrites shadow) := by
  cases board <;> rfl

theorem checkedBringUpWrites_eq (board : Board) :
    board.checkedBringUpWrites = .ok board.bringUpWrites := by
  cases board <;> rfl

end Board

/-! ## Requests -/

/-- Note a bank down for a window, once the window and the bank have been looked at. -/
def checkedNote (windows : List Window) (banks : List Nat) (number bank : Nat) :
    Attempt MapperError (List Nat) := do
  let window ← settled (Descriptor.window windows number)
  settled (window.checkBank bank)
  let place ← index number banks.length
  return banks.set place bank

def Board.checkedRespond (board : Board) (shadow : Shadow) :
    Request → Attempt MapperError (Shadow × List RegisterWrite)
  | .bringUp => return (.atBringUp board, ← board.checkedBringUpWrites)
  | .selectPrg number bank => do
    let after := { shadow with
      prg := ← checkedNote board.descriptor.prgWindows shadow.prg number bank }
    return (after, ← board.checkedPrgWrites after number)
  | .selectChr number bank => do
    let after := { shadow with
      chr := ← checkedNote board.descriptor.chrWindows shadow.chr number bank }
    return (after, ← board.checkedChrWrites after number)
  | .setMirroring mode => do
    if !board.descriptor.supportsMirroring mode then throw (.unsupportedMode mode)
    else if !board.storesMirroring then throw (.unsupportedMode mode)
    else
      let after := { shadow with mirroring := some mode }
      return (after, ← board.checkedMirroringWrites after)
  | .setWram mode => do
    match board.descriptor.wram.missing? mode with
    | some feature => throw (.notSupported feature)
    | none =>
      let after := { shadow with wram := some mode }
      return (after, ← board.checkedWramWrites after)
  | .configureIrq period enabled => do
    match board with
    | .mmc3 =>
      settled (checkPeriod 256 period)
      return (shadow, Board.mmc3.armWrites (← sub period 1) enabled)
    | .fme7 =>
      settled (checkPeriod 65536 period)
      return (shadow, Board.fme7.armWrites (← sub period 1) enabled)
    | _ => throw (.notSupported .irq)
  | .acknowledgeIrq => settled (board.respond shadow .acknowledgeIrq)

/-- There is a place for every window that is found. -/
theorem checkedNote_bind {α : Type} {windows : List Window} {banks : List Nat}
    (hlength : banks.length = windows.length) (number bank : Nat)
    {next : List Nat → Attempt MapperError α} {result : α}
    (hnext : number < windows.length → next (banks.set number bank) = settled (.ok result)) :
    (checkedNote windows banks number bank >>= next) =
      settled (do (← Descriptor.window windows number).checkBank bank; return result) := by
  rw [checkedNote]
  cases hfind : Descriptor.window windows number with
  | error reason => rfl
  | ok window =>
    have hwindow := Descriptor.window_eq_ok_iff.mp hfind
    have hlt := (List.getElem?_eq_some_iff.mp hwindow).1
    rw [settled_ok_bind, index_eq (hlength ▸ hlt)]
    change _ = settled (do window.checkBank bank; return result)
    cases window.checkBank bank with
    | error reason => rfl
    | ok _ => exact hnext hlt

namespace Board

variable {board : Board} {shadow : Shadow}

/-- A period is looked at before one is taken off it. -/
theorem checkPeriod_bind (limit period : Nat) (enabled : Bool) :
    (do
      settled (checkPeriod limit period)
      return (shadow, board.armWrites (← sub period 1) enabled) :
        Attempt MapperError (Shadow × List RegisterWrite)) =
      settled (do
        checkPeriod limit period
        return (shadow, board.armWrites (period - 1) enabled)) := by
  rw [checkPeriod]
  split
  next => rfl
  next hperiod =>
    have hpos : 1 ≤ period := by omega
    rw [sub_eq hpos]
    rfl

theorem checkedRespond_eq (hfits : shadow.Fits board) (req : Request) :
    board.checkedRespond shadow req = settled (board.respond shadow req) := by
  cases req with
  | bringUp => rw [checkedRespond, checkedBringUpWrites_eq]; rfl
  | selectPrg number bank =>
    refine checkedNote_bind hfits.prg_length number bank fun hlt => ?_
    dsimp only
    rw [checkedPrgWrites_eq _ hlt]
    rfl
  | selectChr number bank =>
    refine checkedNote_bind hfits.chr_length number bank fun hlt => ?_
    dsimp only
    rw [checkedChrWrites_eq _ hlt]
    rfl
  | setMirroring mode =>
    rw [checkedRespond, respond]
    split
    next => rfl
    next =>
      split
      next => rfl
      next => dsimp only; rw [checkedMirroringWrites_eq]; rfl
  | setWram mode =>
    rw [checkedRespond, respond]
    cases board.descriptor.wram.missing? mode with
    | some feature => rfl
    | none => dsimp only; rw [checkedWramWrites_eq]; rfl
  | configureIrq period enabled =>
    cases board with
    | mmc3 => exact checkPeriod_bind 256 period enabled
    | fme7 => exact checkPeriod_bind 65536 period enabled
    | nrom | mmc1 | uxRom | cnRom | axRom | mmc2 | mmc4 | colorDreams | action53 | unrom512 | bnRom
    | gnRom => rfl
  | acknowledgeIrq => rfl

end Board

/-! ## The controller -/

namespace Controller

def checkedPerform (ctl : Controller) (request : Request) :
    Attempt MapperError (Controller × List RegisterWrite) := do
  let (shadow, writes) ←
    match ctl.shadow, request with
    | some shadow, request => ctl.board.checkedRespond shadow request
    | none, .bringUp => pure (.atBringUp ctl.board, ← ctl.board.checkedBringUpWrites)
    | none, _ => throw .notReady
  return ({ ctl with shadow := some shadow, select := ctl.selectAfter writes }, writes)

/-- Look the bank of a window up in a list of banks. -/
def checkedLookup (ctl : Controller) (windows : List Window) (banks : Shadow → List Nat)
    (number : Nat) : Attempt MapperError Nat := do
  let shadow ← settled ctl.ready
  let _ ← settled (Descriptor.window windows number)
  liftM (pick (banks shadow).get number)

def checkedPrgBank (ctl : Controller) (window : Nat) : Attempt MapperError Nat :=
  ctl.checkedLookup ctl.board.descriptor.prgWindows Shadow.prg window

def checkedChrBank (ctl : Controller) (window : Nat) : Attempt MapperError Nat :=
  ctl.checkedLookup ctl.board.descriptor.chrWindows Shadow.chr window

/-- What is noted down fits the board. -/
def Sound (ctl : Controller) : Prop :=
  ∀ shadow, ctl.shadow = some shadow → shadow.Fits ctl.board

namespace Sound

variable {ctl : Controller}

theorem checkedPerform_eq (h : ctl.Sound) (req : Request) :
    ctl.checkedPerform req = settled (ctl.perform req) := by
  unfold checkedPerform perform
  cases hshadow : ctl.shadow with
  | none =>
    cases req with
    | bringUp => rw [Board.checkedBringUpWrites_eq]; rfl
    | _ => rfl
  | some shadow =>
    dsimp only
    rw [Board.checkedRespond_eq (h shadow hshadow)]
    cases ctl.board.respond shadow req <;> rfl

/-- A window that is found has a bank. -/
theorem checkedLookup_eq {windows : List Window} {banks : Shadow → List Nat}
    (hlength : ∀ shadow, ctl.shadow = some shadow → (banks shadow).length = windows.length)
    (number : Nat) :
    ctl.checkedLookup windows banks number = settled (do
      let shadow ← ctl.ready
      let _ ← Descriptor.window windows number
      return (banks shadow).getD number 0) := by
  unfold checkedLookup ready
  cases hshadow : ctl.shadow with
  | none => rfl
  | some shadow =>
    cases hfind : Descriptor.window windows number with
    | error reason => rfl
    | ok window =>
      have hwindow := Descriptor.window_eq_ok_iff.mp hfind
      have hlt : number < (banks shadow).length :=
        hlength shadow hshadow ▸ (List.getElem?_eq_some_iff.mp hwindow).1
      have hbank : (banks shadow).getD number 0 = (banks shadow).get ⟨number, hlt⟩ := by
        rw [List.getD_eq_getElem?_getD, List.getElem?_eq_getElem hlt]
        rfl
      rw [settled_ok_bind, settled_ok_bind, pick_eq _ hlt, ← hbank]
      rfl

theorem checkedPrgBank_eq (h : ctl.Sound) (window : Nat) :
    ctl.checkedPrgBank window = settled (ctl.prgBank window) :=
  checkedLookup_eq (fun shadow hshadow => (h shadow hshadow).prg_length) window

theorem checkedChrBank_eq (h : ctl.Sound) (window : Nat) :
    ctl.checkedChrBank window = settled (ctl.chrBank window) :=
  checkedLookup_eq (fun shadow hshadow => (h shadow hshadow).chr_length) window

theorem perform (h : ctl.Sound) {req : Request} {next : Controller} {writes : List RegisterWrite}
    (hperform : ctl.perform req = .ok (next, writes)) : next.Sound := by
  obtain ⟨current, after, hans, hcurrent, rfl⟩ := perform_eq_ok hperform
  rintro shadow ⟨⟩
  rcases hcurrent with hshadow | rfl
  · exact (h current hshadow).answers hans
  · cases hans
    exact Shadow.fits_atBringUp ctl.board

theorem restoreSelect (h : ctl.Sound) (saved : UInt8) : (ctl.restoreSelect saved).1.Sound := by
  rw [Sound, ctl.shadow_restoreSelect, ctl.board_restoreSelect]
  exact h

end Sound

end Controller

/-! ## Sessions -/

namespace Session

def checkedRequest (session : Session Console) (req : Request) :
    Checked (Except MapperError Unit × Session Console) := do
  match ← (session.controller.checkedPerform req).run with
  | .ok (controller, writes) =>
    return (.ok (), { controller, bus := ← session.bus.checkedWriteAll writes })
  | .error err => return (.error err, session)

/-- The end of a handler. -/
def checkedRestore (session : Session Console) (saved : UInt8) : Checked (Session Console) := do
  let (controller, writes) := session.controller.restoreSelect saved
  return { controller, bus := ← session.bus.checkedWriteAll writes }

/-- Controller and console are sound. They need not be of the same board. -/
structure Sound (session : Session Console) : Prop where
  controller : session.controller.Sound
  console : session.bus.Sound

namespace Sound

variable {session : Session Console}

theorem start (board : Board) {console : Console} (h : console.Sound) :
    (Session.start board console).Sound :=
  ⟨nofun, h⟩

/-- The controller has no part in an access. -/
theorem onConsole (h : session.Sound) {console : Console} (hconsole : console.Sound) :
    Session.Sound { session with bus := console } :=
  ⟨h.controller, hconsole⟩

theorem request (h : session.Sound) (req : Request) :
    session.checkedRequest req = .ok (session.request req) ∧ (session.request req).2.Sound := by
  rw [checkedRequest, h.controller.checkedPerform_eq, run_settled, ok_bind, Session.request]
  cases hperform : session.controller.perform req with
  | error reason => exact ⟨rfl, h⟩
  | ok result =>
    obtain ⟨hwrites, hconsole⟩ := h.console.writeAll result.2
    refine ⟨?_, h.controller.perform hperform, hconsole⟩
    dsimp only
    rw [hwrites]
    rfl

theorem restore (h : session.Sound) (saved : UInt8) :
    session.checkedRestore saved = .ok (session.restore saved) ∧ (session.restore saved).Sound := by
  obtain ⟨hwrites, hconsole⟩ := h.console.writeAll (session.controller.restoreSelect saved).2
  refine ⟨?_, h.controller.restoreSelect saved, hconsole⟩
  rw [checkedRestore]
  dsimp only
  rw [hwrites]
  rfl

end Sound

end Session

end NesCartridge
