/-
  NesCartridge.Proofs.Responses

  What a controller answers once its board is up. `Board.Answers` lists the accepted requests,
  each with its condition, the shadow afterwards and the writes; it is exactly when `respond`
  accepts (`respond_eq_ok_iff`). The shadow of a board always fits the registry: as many banks as
  windows, none too large, and only modes that the board has (`Shadow.Fits`).
-/
import NesCartridge.Controller

namespace NesCartridge

/-! ## Accepted requests -/

/-- A board with this shadow accepts a request, moves to the next shadow and makes writes. -/
inductive Board.Answers (board : Board) (shadow : Shadow) :
    Request → Shadow → List RegisterWrite → Prop where
  | bringUp : Answers board shadow .bringUp (.atBringUp board) board.bringUpWrites
  | selectPrg {number bank : Nat} {window : Window}
      (hwindow : board.descriptor.prgWindows[number]? = some window)
      (hbank : bank ≤ window.maxBank) :
      Answers board shadow (.selectPrg number bank) (shadow.setPrg number bank)
        (board.prgWrites (shadow.setPrg number bank) number)
  | selectChr {number bank : Nat} {window : Window}
      (hwindow : board.descriptor.chrWindows[number]? = some window)
      (hbank : bank ≤ window.maxBank) :
      Answers board shadow (.selectChr number bank) (shadow.setChr number bank)
        (board.chrWrites (shadow.setChr number bank) number)
  | setMirroring {mode : Mirroring} (hmode : board.descriptor.supportsMirroring mode = true) :
      Answers board shadow (.setMirroring mode) { shadow with mirroring := some mode }
        (board.mirroringWrites { shadow with mirroring := some mode })
  | setWram {mode : WramMode} (hmode : board.descriptor.wram.missing? mode = none) :
      Answers board shadow (.setWram mode) { shadow with wram := some mode }
        (board.wramWrites { shadow with wram := some mode })
  | configureIrq {period : Nat} {enabled : Bool} (hirq : board.descriptor.supportsIrq = true)
      (hpos : 0 < period) (hmax : period ≤ board.descriptor.irq.maxPeriod) :
      Answers board shadow (.configureIrq period enabled) shadow
        (board.armWrites (period - 1) enabled)
  | acknowledgeIrq (hirq : board.descriptor.supportsIrq = true) :
      Answers board shadow .acknowledgeIrq shadow board.acknowledgeWrites

/-- A bank selection gives its result exactly when the window exists and the bank fits it. -/
theorem checkedBank_eq_ok_iff {α : Type} {windows : List Window} {number bank : Nat}
    {result given : α} :
    (do (← Descriptor.window windows number).checkBank bank; return result) = .ok given ↔
      (∃ window, windows[number]? = some window ∧ bank ≤ window.maxBank) ∧ result = given := by
  unfold Descriptor.window
  cases hfind : windows[number]? with
  | none => simp [bind, Except.bind]
  | some window =>
    by_cases hbank : window.maxBank < bank
    · simp [bind, Except.bind, Window.checkBank, hbank, Nat.not_le.mpr hbank]
    · simp [bind, Except.bind, Window.checkBank, hbank, Nat.le_of_not_lt hbank, pure, Except.pure]

/-! ## The controller and the registry agree

The controller decides by the board which requests it carries out, with limits of its own; the
registry says the same with flags. -/

namespace Board

variable {board : Board} {shadow : Shadow}

/-- Every board with a choice of mirroring has a place to write it. -/
theorem storesMirroring_of_supports {mode : Mirroring}
    (h : board.descriptor.supportsMirroring mode = true) : board.storesMirroring = true := by
  cases board with
  | mmc1 | mmc3 | mmc2 | mmc4 | fme7 | action53 | axRom | unrom512 => rfl
  | nrom | uxRom | cnRom | colorDreams | bnRom | gnRom => cases mode <;> cases h

theorem respond_setMirroring (board : Board) (shadow : Shadow) (mode : Mirroring) :
    board.respond shadow (.setMirroring mode) =
      if board.descriptor.supportsMirroring mode then
        .ok ({ shadow with mirroring := some mode },
          board.mirroringWrites { shadow with mirroring := some mode })
      else .error (.unsupportedMode mode) := by
  rw [respond]
  cases hmode : board.descriptor.supportsMirroring mode with
  | true =>
    rw [storesMirroring_of_supports hmode]
    rfl
  | false => rfl

/-- The boards that arm a counter are those with an IRQ in the registry, and the periods that they
take are those that the registry allows. -/
theorem respond_configureIrq (board : Board) (shadow : Shadow) (period : Nat) (enabled : Bool) :
    board.respond shadow (.configureIrq period enabled) =
      if !board.descriptor.supportsIrq then .error (.notSupported .irq)
      else if period = 0 ∨ board.descriptor.irq.maxPeriod < period then
        .error (.invalidIrqPeriod period)
      else .ok (shadow, board.armWrites (period - 1) enabled) := by
  cases board with
  | mmc3 =>
    show (do checkPeriod 256 period; return _) = if period = 0 ∨ 256 < period then _ else _
    rw [checkPeriod]
    split <;> rfl
  | fme7 =>
    show (do checkPeriod 65536 period; return _) = if period = 0 ∨ 65536 < period then _ else _
    rw [checkPeriod]
    split <;> rfl
  | nrom | mmc1 | uxRom | cnRom | axRom | mmc2 | mmc4 | colorDreams | action53 | unrom512 | bnRom
  | gnRom => rfl

theorem respond_acknowledgeIrq (board : Board) (shadow : Shadow) :
    board.respond shadow .acknowledgeIrq =
      if board.descriptor.supportsIrq then .ok (shadow, board.acknowledgeWrites)
      else .error (.notSupported .irq) := by
  cases board <;> rfl

end Board

/-! ## Which requests are accepted -/

/-- The accepted requests are those listed, with their shadows and writes. -/
theorem Board.respond_eq_ok_iff {board : Board} {shadow after : Shadow} {req : Request}
    {writes : List RegisterWrite} :
    board.respond shadow req = .ok (after, writes) ↔ board.Answers shadow req after writes := by
  constructor
  · intro h
    cases req with
    | bringUp =>
      cases h
      exact .bringUp
    | selectPrg number bank =>
      obtain ⟨⟨window, hwindow, hbank⟩, hresult⟩ := checkedBank_eq_ok_iff.mp h
      cases hresult
      exact .selectPrg hwindow hbank
    | selectChr number bank =>
      obtain ⟨⟨window, hwindow, hbank⟩, hresult⟩ := checkedBank_eq_ok_iff.mp h
      cases hresult
      exact .selectChr hwindow hbank
    | setMirroring mode =>
      rw [respond_setMirroring] at h
      split at h
      next hmode =>
        cases h
        exact .setMirroring hmode
      next => cases h
    | setWram mode =>
      simp only [respond] at h
      split at h
      next => cases h
      next hmode =>
        cases h
        exact .setWram hmode
    | configureIrq period enabled =>
      rw [respond_configureIrq] at h
      split at h
      next => cases h
      next hirq =>
        split at h
        next => cases h
        next hperiod =>
          cases h
          exact .configureIrq (by simpa using hirq) (by omega) (by omega)
    | acknowledgeIrq =>
      rw [respond_acknowledgeIrq] at h
      split at h
      next hirq =>
        cases h
        exact .acknowledgeIrq hirq
      next => cases h
  · intro h
    cases h with
    | bringUp => rfl
    | selectPrg hwindow hbank => exact checkedBank_eq_ok_iff.mpr ⟨⟨_, hwindow, hbank⟩, rfl⟩
    | selectChr hwindow hbank => exact checkedBank_eq_ok_iff.mpr ⟨⟨_, hwindow, hbank⟩, rfl⟩
    | setMirroring hmode => rw [respond_setMirroring, if_pos hmode]
    | setWram hmode => simp only [respond, hmode]
    | configureIrq hirq hpos hmax =>
      rw [respond_configureIrq, hirq, if_neg (by decide), if_neg (by omega)]
    | acknowledgeIrq hirq => rw [respond_acknowledgeIrq, if_pos hirq]

/-- A period that does not fit the counter is refused. -/
theorem Board.respond_tooLong {board : Board} (hirq : board.descriptor.supportsIrq = true)
    {period : Nat} (hmax : board.descriptor.irq.maxPeriod < period) (shadow : Shadow) :
    board.respond shadow (.configureIrq period true) = .error (.invalidIrqPeriod period) := by
  rw [respond_configureIrq, hirq, if_neg (by decide), if_pos (Or.inr hmax)]

/-- The request has no business with the IRQ counter. -/
def Request.LeavesCounter : Request → Prop
  | .bringUp | .configureIrq .. | .acknowledgeIrq => False
  | .selectPrg .. | .selectChr .. | .setMirroring .. | .setWram .. => True

/-! ## Reading and changing a shadow -/

namespace Shadow

/-- A list of banks after one of them was changed. -/
theorem getD_set_zero {banks : List Nat} {number : Nat} (h : number < banks.length)
    (bank i : Nat) :
    (banks.set number bank).getD i 0 = if i = number then bank else banks.getD i 0 := by
  rw [List.getD_eq_getElem?_getD, List.getElem?_set]
  by_cases hi : number = i
  · subst hi
    rw [if_pos rfl, if_pos rfl, if_pos h, Option.getD_some]
  · rw [if_neg hi, if_neg (Ne.symm hi), List.getD_eq_getElem?_getD]

theorem getD_replicate_zero (count i : Nat) : (List.replicate count 0).getD i 0 = 0 := by
  rw [List.getD_eq_getElem?_getD, List.getElem?_replicate]
  split <;> rfl

theorem prgBank_setPrg {shadow : Shadow} {number : Nat} (h : number < shadow.prg.length)
    (bank i : Nat) :
    (shadow.setPrg number bank).prgBank i = if i = number then bank else shadow.prgBank i :=
  getD_set_zero h bank i

theorem chrBank_setChr {shadow : Shadow} {number : Nat} (h : number < shadow.chr.length)
    (bank i : Nat) :
    (shadow.setChr number bank).chrBank i = if i = number then bank else shadow.chrBank i :=
  getD_set_zero h bank i

theorem prgBank_atBringUp (board : Board) (i : Nat) : (atBringUp board).prgBank i = 0 :=
  getD_replicate_zero _ i

theorem chrBank_atBringUp (board : Board) (i : Nat) : (atBringUp board).chrBank i = 0 :=
  getD_replicate_zero _ i

/-! ## Shadows that fit a board -/

/-- The shadow is one that a controller of this board can have. -/
structure Fits (shadow : Shadow) (board : Board) : Prop where
  prg_length : shadow.prg.length = board.descriptor.prgWindows.length
  chr_length : shadow.chr.length = board.descriptor.chrWindows.length
  prg_le : ∀ i window, board.descriptor.prgWindows[i]? = some window →
    shadow.prgBank i ≤ window.maxBank
  chr_le : ∀ i window, board.descriptor.chrWindows[i]? = some window →
    shadow.chrBank i ≤ window.maxBank
  mirroring_isSome : shadow.mirroring.isSome = board.descriptor.mirroring.hasChoice
  mirroring_mem : ∀ mode, shadow.mirroring = some mode →
    board.descriptor.supportsMirroring mode = true
  wram_isSome : shadow.wram.isSome = board.descriptor.hasWram
  wram_mem : ∀ mode, shadow.wram = some mode → board.descriptor.wram.missing? mode = none

theorem fits_atBringUp (board : Board) : (atBringUp board).Fits board where
  prg_length := by simp [atBringUp]
  chr_length := by simp [atBringUp]
  prg_le i window _ := by simp [prgBank_atBringUp]
  chr_le i window _ := by simp [chrBank_atBringUp]
  mirroring_isSome := by cases board <;> rfl
  mirroring_mem mode h := by cases board <;> cases h <;> rfl
  wram_isSome := by cases board <;> rfl
  wram_mem mode h := by cases board <;> cases h <;> rfl

/-- A board that accepts one mode lets modes be chosen. -/
theorem hasChoice_of_supports {board : Board} {mode : Mirroring}
    (h : board.descriptor.supportsMirroring mode = true) :
    board.descriptor.mirroring.hasChoice = true := by
  -- Either the board has a choice or it has no mode at all.
  cases board with
  | nrom | uxRom | cnRom | colorDreams | bnRom | gnRom => cases mode <;> cases h
  | mmc1 | mmc2 | mmc3 | mmc4 | axRom | action53 | fme7 | unrom512 => rfl

theorem hasWram_of_missing? {board : Board} {mode : WramMode}
    (h : board.descriptor.wram.missing? mode = none) : board.descriptor.hasWram = true := by
  cases board with
  | mmc1 | mmc3 | mmc4 | fme7 => rfl
  | _ => cases h

namespace Fits

variable {shadow : Shadow} {board : Board} {number : Nat} {window : Window}

theorem prgBank_setPrg (h : shadow.Fits board)
    (hwindow : board.descriptor.prgWindows[number]? = some window) (bank i : Nat) :
    (shadow.setPrg number bank).prgBank i = if i = number then bank else shadow.prgBank i :=
  Shadow.prgBank_setPrg (h.prg_length ▸ (List.getElem?_eq_some_iff.mp hwindow).1) bank i

theorem chrBank_setChr (h : shadow.Fits board)
    (hwindow : board.descriptor.chrWindows[number]? = some window) (bank i : Nat) :
    (shadow.setChr number bank).chrBank i = if i = number then bank else shadow.chrBank i :=
  Shadow.chrBank_setChr (h.chr_length ▸ (List.getElem?_eq_some_iff.mp hwindow).1) bank i

/-- Windows that the board lacks count as bank 0. -/
theorem prgBank_of_none (h : shadow.Fits board)
    (hnone : board.descriptor.prgWindows[number]? = none) : shadow.prgBank number = 0 := by
  have hlength : shadow.prg.length ≤ number := by
    rw [h.prg_length]
    exact List.getElem?_eq_none_iff.mp hnone
  rw [prgBank, List.getD_eq_getElem?_getD, List.getElem?_eq_none hlength, Option.getD_none]

theorem chrBank_of_none (h : shadow.Fits board)
    (hnone : board.descriptor.chrWindows[number]? = none) : shadow.chrBank number = 0 := by
  have hlength : shadow.chr.length ≤ number := by
    rw [h.chr_length]
    exact List.getElem?_eq_none_iff.mp hnone
  rw [chrBank, List.getD_eq_getElem?_getD, List.getElem?_eq_none hlength, Option.getD_none]

/-- Every register is a byte wide at most. -/
theorem prgBank_le (h : shadow.Fits board) (number : Nat) : shadow.prgBank number ≤ 255 := by
  have hregistry : ∀ window ∈ board.descriptor.prgWindows, window.maxBank ≤ 255 := by
    cases board <;> decide
  cases hwindow : board.descriptor.prgWindows[number]? with
  | none => rw [h.prgBank_of_none hwindow]; omega
  | some window =>
    exact Nat.le_trans (h.prg_le number window hwindow)
      (hregistry window (List.mem_of_getElem? hwindow))

theorem chrBank_le (h : shadow.Fits board) (number : Nat) : shadow.chrBank number ≤ 255 := by
  have hregistry : ∀ window ∈ board.descriptor.chrWindows, window.maxBank ≤ 255 := by
    cases board <;> decide
  cases hwindow : board.descriptor.chrWindows[number]? with
  | none => rw [h.chrBank_of_none hwindow]; omega
  | some window =>
    exact Nat.le_trans (h.chr_le number window hwindow)
      (hregistry window (List.mem_of_getElem? hwindow))

end Fits

/-- Whatever is accepted, the next shadow fits again. -/
theorem Fits.answers {board : Board} {shadow after : Shadow} {req : Request}
    {writes : List RegisterWrite} (h : shadow.Fits board)
    (hans : board.Answers shadow req after writes) : after.Fits board := by
  cases hans with
  | bringUp => exact fits_atBringUp board
  -- Each request moves one field, and the other fields fit as they did.
  | selectPrg hwindow hbank =>
    refine { h with prg_length := ?_, prg_le := ?_ }
    · rw [setPrg, List.length_set, h.prg_length]
    · intro i window hi
      rw [h.prgBank_setPrg hwindow]
      split
      next heq =>
        subst heq
        rw [hwindow] at hi
        cases hi
        exact hbank
      next => exact h.prg_le i window hi
  | selectChr hwindow hbank =>
    refine { h with chr_length := ?_, chr_le := ?_ }
    · rw [setChr, List.length_set, h.chr_length]
    · intro i window hi
      rw [h.chrBank_setChr hwindow]
      split
      next heq =>
        subst heq
        rw [hwindow] at hi
        cases hi
        exact hbank
      next => exact h.chr_le i window hi
  | setMirroring hmode =>
    refine { h with mirroring_isSome := ?_, mirroring_mem := ?_ }
    · exact (hasChoice_of_supports hmode).symm
    · intro mode heq
      cases heq
      exact hmode
  | setWram hmode =>
    refine { h with wram_isSome := ?_, wram_mem := ?_ }
    · exact (hasWram_of_missing? hmode).symm
    · intro mode heq
      cases heq
      exact hmode
  | configureIrq => exact h
  | acknowledgeIrq => exact h

end Shadow

end NesCartridge
