/-
  NesCartridge.Proofs.Diagnostics.Restoration

  The diagnostics put the controller back, whatever they find. A routine asks only for what its
  board has, so nothing is ever refused, whichever cartridge is in the console and however many
  checks fail (`Bench.UnderControl`); what a routine selected on its way it takes back at its end
  (`Routine.Leaves`). Main statement: `diagnostics_put_back`.
-/
import NesCartridge.Proofs.Diagnostics.ChrRoutines
import NesCartridge.Proofs.Diagnostics.FeatureRoutines
import NesCartridge.Proofs.Diagnostics.WramRoutine
import NesCartridge.Proofs.Checked.Diagnostics

namespace NesCartridge

/-! ## Banks put back -/

/-- Bank 0 in some windows, the other windows as they were. -/
def clearBanks (banks numbers : List Nat) : List Nat :=
  numbers.foldl (fun banks number => banks.set number 0) banks

theorem getD_clearBank (banks : List Nat) (number other : Nat) :
    (banks.set number 0).getD other 0 = if other = number then 0 else banks.getD other 0 := by
  rw [List.getD_eq_getElem?_getD, List.getD_eq_getElem?_getD, List.getElem?_set]
  split
  next hsame =>
    rw [if_pos hsame.symm]
    split <;> rfl
  next hother => rw [if_neg (Ne.symm hother)]

theorem getD_clearBanks (banks numbers : List Nat) (other : Nat) :
    (clearBanks banks numbers).getD other 0 =
      if other ∈ numbers then 0 else banks.getD other 0 := by
  induction numbers generalizing banks with
  | nil => rfl
  | cons number rest ih =>
    show (clearBanks (banks.set number 0) rest).getD other 0 = _
    rw [ih, getD_clearBank]
    by_cases hrest : other ∈ rest
    · rw [if_pos hrest, if_pos (List.mem_cons_of_mem _ hrest)]
    · simp only [hrest, List.mem_cons, or_false, if_false]

namespace Shadow

/-- Only PRG banks have moved. -/
def PrgOnly (before now : Shadow) : Prop :=
  now = { before with prg := now.prg }

/-- Only CHR banks have moved. -/
def ChrOnly (before now : Shadow) : Prop :=
  now = { before with chr := now.chr }

/-- Only the mirroring has changed. -/
def MirroringOnly (before now : Shadow) : Prop :=
  now = { before with mirroring := now.mirroring }

/-- The work RAM is in some mode, and else everything is as before. -/
def WramOnly (before now : Shadow) : Prop :=
  now = { before with wram := now.wram }

/-- The work RAM is open, and else everything is as before. -/
def Opened (before now : Shadow) : Prop :=
  now = { before with wram := some .readWrite }

/-- One PRG window is at some bank, and else everything is as before. -/
def PrgMoved (before : Shadow) (number : Nat) (now : Shadow) : Prop :=
  now.setPrg number 0 = before.setPrg number 0

/-- One CHR window is at some bank, and else everything is as before. -/
def ChrMoved (before : Shadow) (number : Nat) (now : Shadow) : Prop :=
  now.setChr number 0 = before.setChr number 0

/-- Going back to bank 0 undoes what was selected in between. -/
theorem setPrg_setPrg (shadow : Shadow) (number bank last : Nat) :
    (shadow.setPrg number bank).setPrg number last = shadow.setPrg number last := by
  simp only [setPrg, List.set_set]

theorem setChr_setChr (shadow : Shadow) (number bank last : Nat) :
    (shadow.setChr number bank).setChr number last = shadow.setChr number last := by
  simp only [setChr, List.set_set]

end Shadow

namespace Bench

/-- The board is driven and up, with selections as described, and of refusals the report says what
it said. -/
structure UnderControl (board : Board) (control : Bool) (selected : Shadow → Prop)
    (bench : Bench) : Prop where
  board_eq : bench.board = board
  control_eq : bench.report.failures.contains .control = control
  shadow : ∃ now, bench.session.controller.shadow = some now ∧ selected now

namespace UnderControl

variable {board : Board} {control : Bool} {selected after : Shadow → Prop} {bench : Bench}
  {before : Shadow} {req : Request} {number bank : Nat} {window : Window}

theorem desc_eq (h : UnderControl board control selected bench) :
    bench.desc = board.descriptor :=
  congrArg Board.descriptor h.board_eq

theorem mono (h : UnderControl board control selected bench)
    (hafter : ∀ now, selected now → after now) : UnderControl board control after bench := by
  obtain ⟨now, hnow, hselected⟩ := h.shadow
  exact ⟨h.board_eq, h.control_eq, now, hnow, hafter now hselected⟩

/-! ## Requests -/

/-- What the board has is accepted, whatever is in the console. -/
theorem request (h : UnderControl board control selected bench)
    (hans : ∀ now, selected now → ∃ next writes, board.Answers now req next writes ∧ after next) :
    ∃ next, bench.request req = (.ok (), next) ∧ UnderControl board control after next := by
  obtain ⟨now, hnow, hselected⟩ := h.shadow
  obtain ⟨next, writes, hanswers, hafter⟩ := hans now hselected
  have hboard : bench.session.controller.board = board := h.board_eq
  have hperform := Controller.perform_of_answers hnow (hboard.symm ▸ hanswers)
  rw [Bench.request, Session.request, hperform]
  exact ⟨_, rfl, ⟨hboard, h.control_eq, next, rfl, hafter⟩⟩

theorem ask (h : UnderControl board control selected bench)
    (hans : ∀ now, selected now → ∃ next writes, board.Answers now req next writes ∧ after next)
    (check : Check) (what : String) :
    Returns (bench.ask check what req) (UnderControl board control after) := by
  obtain ⟨next, hrequest, hnext⟩ := h.request hans
  refine ⟨next, ?_, hnext⟩
  rw [Bench.ask, hrequest]

/-- What the board lacks is refused, and nothing happens. -/
theorem request_of_refused (h : UnderControl board control selected bench) {error : MapperError}
    (hrefused : ∀ now, selected now → board.respond now req = .error error) :
    bench.request req = (.error error, bench) := by
  obtain ⟨now, hnow, hselected⟩ := h.shadow
  have hboard : bench.session.controller.board = board := h.board_eq
  have hperform := Controller.perform_of_refused hnow (hboard.symm ▸ hrefused now hselected)
  rw [Bench.request, Session.request, hperform]

/-! ## Checks and accesses -/

/-- A check may fail; that is no refusal. -/
theorem check (h : UnderControl board control selected bench) (what : Check)
    (hwhat : what ≠ .control) (ok : Bool) (note : Note) :
    UnderControl board control selected (bench.check what ok note) := by
  refine ⟨h.board_eq, ?_, h.shadow⟩
  cases ok with
  | true => exact h.control_eq
  | false =>
    have hinsert := CheckSet.contains_insert bench.report.failures what .control
    rw [or_iff_left hwhat.symm] at hinsert
    exact (Bool.eq_iff_iff.mpr hinsert).trans h.control_eq

theorem onConsole (h : UnderControl board control selected bench) (f : Console → Console) :
    UnderControl board control selected (bench.onConsole f) :=
  ⟨h.board_eq, h.control_eq, h.shadow⟩

theorem readPpu (h : UnderControl board control selected bench) (addr : UInt16) :
    UnderControl board control selected (bench.readPpu addr).2 :=
  ⟨h.board_eq, h.control_eq, h.shadow⟩

/-- Counts and remarks have no part in it. -/
theorem onReport (h : UnderControl board control selected bench) {f : Report → Report}
    (hf : (f bench.report).failures = bench.report.failures) :
    UnderControl board control selected (bench.onReport f) :=
  ⟨h.board_eq, (congrArg (·.contains .control) hf).trans h.control_eq, h.shadow⟩

/-! ## Windows -/

/-- A loop that takes its windows back to bank 0, one after the other. The banks are those of `put`,
of which the rest of the shadow is made. -/
theorem foldlM_clear {step : Bench → Window × Nat → Progress} {entries : List (Window × Nat)}
    (put : List Nat → Shadow)
    (hstep : ∀ entry ∈ entries, ∀ banks bench, UnderControl board control (· = put banks) bench →
      Returns (step bench entry) (UnderControl board control (· = put (banks.set entry.2 0))))
    {banks : List Nat} (h : UnderControl board control (· = put banks) bench) :
    Returns (entries.foldlM step bench)
      (UnderControl board control (· = put (clearBanks banks (entries.map Prod.snd)))) := by
  induction entries generalizing banks bench with
  | nil => exact Returns.pure h
  | cons entry rest ih =>
    rw [List.foldlM_cons]
    refine (hstep entry List.mem_cons_self banks bench h).bind fun next hnext => ?_
    exact ih (fun other hmem => hstep other (List.mem_cons_of_mem entry hmem)) hnext

/-! ## PRG -/

theorem prgMoved (h : UnderControl board control (· = before) bench) (number : Nat) :
    UnderControl board control (before.PrgMoved number) bench :=
  h.mono fun now hnow => by rw [Shadow.PrgMoved, hnow]

theorem ask_selectPrg (h : UnderControl board control (before.PrgMoved number) bench)
    (hwindow : board.descriptor.prgWindows[number]? = some window) (hbank : bank ≤ window.maxBank)
    (check : Check) (what : String) :
    Returns (bench.ask check what (.selectPrg number bank))
      (UnderControl board control (before.PrgMoved number)) := by
  refine h.ask (fun now hnow => ⟨_, _, .selectPrg hwindow hbank, ?_⟩) check what
  rw [Shadow.PrgMoved, now.setPrg_setPrg]
  exact hnow

/-- Bank 0 is where the window goes back to. -/
theorem ask_selectPrg_zero (h : UnderControl board control (before.PrgMoved number) bench)
    (hwindow : board.descriptor.prgWindows[number]? = some window) (check : Check)
    (what : String) :
    Returns (bench.ask check what (.selectPrg number 0))
      (UnderControl board control (· = before.setPrg number 0)) :=
  h.ask (fun _ hnow => ⟨_, _, .selectPrg hwindow (Nat.zero_le _), hnow⟩) check what

theorem prgBank (h : UnderControl board control (before.PrgMoved number) bench)
    (hwindow : board.descriptor.prgWindows[number]? = some window)
    (hbank : bank ≤ window.maxBank) :
    Returns (Bench.prgBank window number bench bank)
      (UnderControl board control (before.PrgMoved number)) := by
  unfold Bench.prgBank
  refine (h.ask_selectPrg hwindow hbank _ _).bind fun next hnext => ?_
  exact Returns.pure ((hnext.check .prgBanks (by decide) _ _).onReport rfl)

/-- However its banks compare, a window goes back to bank 0. -/
theorem prgWindow (h : UnderControl board control (· = before) bench)
    (hwindow : board.descriptor.prgWindows[number]? = some window) :
    Returns (bench.prgWindow (window, number))
      (UnderControl board control (· = before.setPrg number 0)) := by
  have hbanks := Returns.foldlM_of_mem (fun bank hmem _ hnow =>
    hnow.prgBank hwindow (Window.le_maxBank_of_mem hmem)) (h.prgMoved number)
  unfold Bench.prgWindow
  refine hbanks.bind fun last hlast => Returns.pure ?_
  exact (hlast.ask_selectPrg_zero hwindow _ _).finish

theorem prgBanks (h : UnderControl board control (· = before) bench) :
    UnderControl board control
      (· = { before with
        prg := clearBanks before.prg (board.descriptor.prgWindows.zipIdx.map Prod.snd) })
      bench.prgBanks := by
  unfold Bench.prgBanks
  rw [h.desc_eq]
  refine (h.foldlM_clear (fun banks => { before with prg := banks })
    fun entry hmem banks bench hnow => ?_).finish
  exact hnow.prgWindow (List.mem_zipIdx_iff_getElem?.mp hmem)

/-- Whichever bank repeats the first, if any does. -/
theorem findRepeat (h : UnderControl board control (before.PrgMoved 0) bench)
    (hwindow : board.descriptor.prgWindows[0]? = some window) (first : UInt8) {banks : List Nat}
    (hbanks : ∀ bank ∈ banks, bank ≤ window.maxBank) :
    Returns (Bench.findRepeat window first banks bench) fun found =>
      UnderControl board control (before.PrgMoved 0) found.2 := by
  induction banks generalizing bench with
  | nil => exact ⟨_, rfl, h⟩
  | cons bank rest ih =>
    have hrest := fun other hother => hbanks other (List.mem_cons_of_mem bank hother)
    unfold Bench.findRepeat
    refine (h.ask_selectPrg hwindow (hbanks bank List.mem_cons_self) _ _).bind fun next hnext => ?_
    split
    next => exact Returns.pure hnext
    next => exact ih hnext hrest

theorem prgSize_of_nil (h : UnderControl board control selected bench)
    (hwindows : board.descriptor.prgWindows = []) : bench.prgSize = bench := by
  unfold Bench.prgSize
  rw [h.desc_eq, hwindows]

theorem prgSize (h : UnderControl board control (· = before) bench) {rest : List Window}
    (hwindows : board.descriptor.prgWindows = window :: rest) :
    UnderControl board control (· = before.setPrg 0 0) bench.prgSize := by
  have hwindow : board.descriptor.prgWindows[0]? = some window := by
    rw [hwindows]
    rfl
  have hbanks : ∀ bank ∈ doublings window, bank ≤ window.maxBank := fun bank hmem =>
    of_decide_eq_true (List.mem_filter.mp hmem).2
  unfold Bench.prgSize
  rw [h.desc_eq, hwindows]
  refine Returns.finish (((h.prgMoved 0).ask_selectPrg hwindow (Nat.zero_le _) .prgSize
    "PRG size").bind fun first hfirst => ?_)
  refine (hfirst.findRepeat hwindow (first.read window.base) hbanks).bind fun found hfound => ?_
  refine (hfound.ask_selectPrg_zero hwindow .prgSize "PRG size").bind fun last hlast => ?_
  exact Returns.pure ((hlast.onReport rfl).check .prgSize (by decide) _ _)

/-! ## CHR -/

theorem ask_selectChr (h : UnderControl board control (before.ChrMoved number) bench)
    (hwindow : board.descriptor.chrWindows[number]? = some window) (hbank : bank ≤ window.maxBank)
    (check : Check) (what : String) :
    Returns (bench.ask check what (.selectChr number bank))
      (UnderControl board control (before.ChrMoved number)) := by
  refine h.ask (fun now hnow => ⟨_, _, .selectChr hwindow hbank, ?_⟩) check what
  rw [Shadow.ChrMoved, now.setChr_setChr]
  exact hnow

/-- Bank 0 is where the window goes back to. -/
theorem ask_selectChr_zero (h : UnderControl board control (before.ChrMoved number) bench)
    (hwindow : board.descriptor.chrWindows[number]? = some window) (check : Check)
    (what : String) :
    Returns (bench.ask check what (.selectChr number 0))
      (UnderControl board control (· = before.setChr number 0)) :=
  h.ask (fun _ hnow => ⟨_, _, .selectChr hwindow (Nat.zero_le _), hnow⟩) check what

theorem tagChrBank (h : UnderControl board control (before.ChrMoved number) bench)
    (hwindow : board.descriptor.chrWindows[number]? = some window)
    (hbank : bank ≤ window.maxBank) :
    Returns (Bench.tagChrBank window number bench bank)
      (UnderControl board control (before.ChrMoved number)) := by
  unfold Bench.tagChrBank
  refine (h.ask_selectChr hwindow hbank _ _).bind fun next hnext => ?_
  exact Returns.pure (hnext.onConsole _)

theorem chrBank (h : UnderControl board control (before.ChrMoved number) bench)
    (hwindow : board.descriptor.chrWindows[number]? = some window)
    (hbank : bank ≤ window.maxBank) :
    Returns (Bench.chrBank window number bench bank)
      (UnderControl board control (before.ChrMoved number)) := by
  unfold Bench.chrBank
  refine (h.ask_selectChr hwindow hbank _ _).bind fun next hnext => ?_
  exact Returns.pure (((hnext.readPpu _).check .chrBanks (by decide) _ _).onReport rfl)

/-- All banks of a window in turn, and back to bank 0. -/
theorem chrPass (h : UnderControl board control (before.ChrMoved number) bench)
    (hwindow : board.descriptor.chrWindows[number]? = some window) :
    Returns
      (do
        let bench ← window.banks.foldlM (Bench.chrBank window number) bench
        return finish (bench.ask .chrBanks "CHR bank" (.selectChr number 0)))
      (UnderControl board control (· = before.setChr number 0)) := by
  have hbanks := Returns.foldlM_of_mem (fun bank hmem _ hnow =>
    hnow.chrBank hwindow (Window.le_maxBank_of_mem hmem)) h
  refine hbanks.bind fun last hlast => Returns.pure ?_
  exact (hlast.ask_selectChr_zero hwindow _ _).finish

theorem chrWindow (h : UnderControl board control (· = before) bench)
    (hwindow : board.descriptor.chrWindows[number]? = some window) :
    Returns (bench.chrWindow (window, number))
      (UnderControl board control (· = before.setChr number 0)) := by
  have hmoved : UnderControl board control (before.ChrMoved number) bench :=
    h.mono fun now hnow => by rw [Shadow.ChrMoved, hnow]
  unfold Bench.chrWindow
  dsimp only
  -- Only RAM gets its tags first.
  split
  next =>
    refine (Returns.foldlM_of_mem (fun bank hmem _ hnow =>
      hnow.tagChrBank hwindow (Window.le_maxBank_of_mem hmem)) hmoved).bind fun next hnext => ?_
    exact hnext.chrPass hwindow
  next => exact hmoved.chrPass hwindow

theorem chrBanks (h : UnderControl board control (· = before) bench) :
    UnderControl board control
      (· = { before with chr := clearBanks before.chr (board.plainChrWindows.map Prod.snd) })
      bench.chrBanks := by
  unfold Bench.chrBanks
  rw [h.desc_eq]
  refine (h.foldlM_clear (fun banks => { before with chr := banks })
    fun entry hmem banks bench hnow => ?_).finish
  exact hnow.chrWindow (Board.of_mem_plainChrWindows hmem).1

theorem prepareLatch (h : UnderControl board control before.ChrOnly bench)
    {entry : Window × Nat} (hwindow : board.descriptor.chrWindows[entry.2]? = some entry.1) :
    Returns (bench.prepareLatch entry) (UnderControl board control before.ChrOnly) := by
  refine h.ask (fun now hnow => ⟨_, _, .selectChr hwindow (latchBank_le ..), ?_⟩) _ _
  rw [Shadow.ChrOnly, hnow]
  rfl

theorem chrLatch (h : UnderControl board control selected bench) (entry : Window × Nat) :
    UnderControl board control selected (bench.chrLatch entry) := by
  obtain ⟨window, number⟩ := entry
  unfold Bench.chrLatch
  dsimp only
  split
  next => exact h
  next latch hlatch =>
    exact (((h.readPpu _).readPpu _).check .chrLatches (by decide) _ _).onReport rfl

theorem chrLatches (h : UnderControl board control (· = before) bench) :
    UnderControl board control before.ChrOnly bench.chrLatches := by
  have hstart : UnderControl board control before.ChrOnly bench :=
    h.mono fun now hnow => by rw [hnow]; rfl
  unfold Bench.chrLatches
  rw [h.desc_eq]
  refine Returns.finish ((Returns.foldlM_of_mem (fun entry hmem _ hnow =>
    hnow.prepareLatch (List.mem_zipIdx_iff_getElem?.mp hmem)) hstart).bind fun next hnext => ?_)
  refine Returns.pure (List.foldlRecOn _ _ hnext fun now hnow entry _ => hnow.chrLatch entry)

/-! ## Work RAM -/

/-- Whatever mode it was in, the work RAM can be opened. -/
theorem ask_openWram (h : UnderControl board control before.WramOnly bench)
    (hwram : board.descriptor.hasWram = true) (what : String) :
    Returns (bench.ask .wram what (.setWram .readWrite))
      (UnderControl board control (· = { before with wram := some .readWrite })) := by
  refine h.ask (fun now hnow => ⟨_, _, .setWram (Board.missing?_readWrite hwram), ?_⟩) _ _
  rw [hnow]

/-- A mode is taken, or it is refused and nothing has changed. -/
theorem request_setWram (h : UnderControl board control before.WramOnly bench)
    (mode : WramMode) :
    (∃ error, bench.request (.setWram mode) = (.error error, bench)) ∨
      ∃ next, bench.request (.setWram mode) = (.ok (), next) ∧
        UnderControl board control before.WramOnly next := by
  cases hmode : board.descriptor.wram.missing? mode with
  | some feature =>
    have hrefused : ∀ now, before.WramOnly now →
        board.respond now (.setWram mode) = .error (.notSupported feature) := by
      intro now _
      simp only [Board.respond, hmode]
    exact .inl ⟨_, h.request_of_refused hrefused⟩
  | none =>
    refine .inr (h.request fun now hnow => ⟨_, _, .setWram hmode, ?_⟩)
    rw [Shadow.WramOnly, hnow]

theorem wramOnly (h : UnderControl board control before.Opened bench) :
    UnderControl board control before.WramOnly bench :=
  h.mono fun now hnow => by rw [Shadow.WramOnly, hnow]

theorem wramDisable (h : UnderControl board control before.Opened bench)
    (hwram : board.descriptor.hasWram = true) :
    Returns bench.wramDisable (UnderControl board control before.Opened) := by
  unfold Bench.wramDisable
  rcases h.wramOnly.request_setWram .disabled with ⟨error, hrequest⟩ | ⟨closed, hrequest, hclosed⟩
  · rw [hrequest]
    exact Returns.pure (h.onReport rfl)
  · rw [hrequest]
    refine ((hclosed.onConsole _).ask_openWram hwram "WRAM re-enable").bind fun next hnext => ?_
    exact Returns.pure (hnext.check .wramDisable (by decide) _ _)

theorem wramProtect (h : UnderControl board control before.Opened bench)
    (hwram : board.descriptor.hasWram = true) :
    Returns bench.wramProtect (UnderControl board control before.Opened) := by
  unfold Bench.wramProtect
  rcases h.wramOnly.request_setWram .readOnly with ⟨error, hrequest⟩ | ⟨closed, hrequest, hclosed⟩
  · rw [hrequest]
    exact Returns.pure (h.onReport rfl)
  · rw [hrequest]
    refine ((hclosed.onConsole _).ask_openWram hwram "WRAM re-enable").bind fun next hnext => ?_
    exact Returns.pure (hnext.check .wramProtect (by decide) _ _)

/-- The work RAM is left open, in whatever mode it was. -/
theorem wram (h : UnderControl board control (· = before) bench)
    (hwram : board.descriptor.hasWram = true) :
    UnderControl board control before.Opened bench.wram := by
  have hstart : UnderControl board control before.WramOnly
      (bench.onReport fun r => { r with wram := true }) :=
    (h.mono fun now hnow => by rw [hnow]; rfl).onReport rfl
  unfold Bench.wram
  refine Returns.finish ((hstart.ask_openWram hwram "WRAM enable").bind fun opened hopened => ?_)
  have hstored : UnderControl board control before.Opened
      ((opened.write Address.wramStart 0xA5).write Address.wramEnd 0x5A) :=
    (hopened.onConsole _).onConsole _
  refine ((hstored.check .wram (by decide) _ _).wramDisable hwram).bind fun next hnext => ?_
  exact hnext.wramProtect hwram

/-! ## Mirroring -/

theorem mirroringOnly_set {now : Shadow} (h : before.MirroringOnly now) (mode : Mirroring) :
    before.MirroringOnly { now with mirroring := some mode } := by
  rw [Shadow.MirroringOnly, h]

theorem seenAt (h : UnderControl board control selected bench) (marker : UInt8)
    (bases : List UInt16) :
    UnderControl board control selected (Bench.seenAt marker bases bench).2 := by
  induction bases generalizing bench with
  | nil => exact h
  | cons base rest ih => exact ih (h.readPpu base)

theorem mirroringMode (h : UnderControl board control before.MirroringOnly bench)
    {mode : Mirroring} (hmode : mode ∈ board.descriptor.mirroring.modes) (number : Nat) :
    UnderControl board control before.MirroringOnly (bench.mirroringMode (mode, number)) := by
  have hsupports : board.descriptor.supportsMirroring mode = true := MirroringSet.mem_modes.mp hmode
  obtain ⟨next, hrequest, hnext⟩ :=
    h.request fun now hnow => ⟨_, _, .setMirroring hsupports, mirroringOnly_set hnow mode⟩
  unfold Bench.mirroringMode
  dsimp only
  rw [hrequest]
  dsimp only
  have hwiped : UnderControl board control before.MirroringOnly
      (nametableBases.reverse.foldl (fun bench base => bench.writePpu base 0) next) :=
    List.foldlRecOn _ _ hnext fun _ hnow base _ => hnow.onConsole (·.writePpu base 0)
  exact ((hwiped.onConsole _).seenAt _ _).check .mirroring (by decide) _ _

theorem ask_setMirroring (h : UnderControl board control before.MirroringOnly bench)
    {mode : Mirroring} (hmode : mode ∈ board.descriptor.mirroring.modes) :
    Returns (bench.ask .mirroring "mirroring" (.setMirroring mode))
      (UnderControl board control before.MirroringOnly) :=
  h.ask (fun _ hnow =>
    ⟨_, _, .setMirroring (MirroringSet.mem_modes.mp hmode), mirroringOnly_set hnow mode⟩) _ _

theorem oneScreenPages (h : UnderControl board control before.MirroringOnly bench)
    (hlower : .oneScreenLower ∈ board.descriptor.mirroring.modes)
    (hupper : .oneScreenUpper ∈ board.descriptor.mirroring.modes) :
    Returns bench.oneScreenPages (UnderControl board control before.MirroringOnly) := by
  unfold Bench.oneScreenPages
  refine (h.ask_setMirroring hlower).bind fun lower hnow => ?_
  refine ((hnow.onConsole _).ask_setMirroring hupper).bind fun upper hnow => ?_
  refine ((hnow.onConsole _).ask_setMirroring hlower).bind fun last hnow => ?_
  exact Returns.pure ((hnow.readPpu 0x2000).check .mirroring (by decide) _ _)

theorem mirroring (h : UnderControl board control (· = before) bench) :
    UnderControl board control before.MirroringOnly bench.mirroring := by
  have hstart : UnderControl board control before.MirroringOnly bench :=
    h.mono fun now hnow => by rw [hnow]; rfl
  have hall : UnderControl board control before.MirroringOnly
      (board.descriptor.mirroring.modes.zipIdx.foldl Bench.mirroringMode bench) :=
    List.foldlRecOn _ _ hstart fun _ hnow entry hentry =>
      hnow.mirroringMode (List.fst_mem_of_mem_zipIdx hentry) entry.2
  unfold Bench.mirroring
  rw [h.desc_eq]
  dsimp only
  split
  next hboth =>
    obtain ⟨hlower, hupper⟩ := (Bool.and_eq_true ..).mp hboth
    exact (hall.oneScreenPages (List.contains_iff_mem.mp hlower)
      (List.contains_iff_mem.mp hupper)).finish
  next => exact hall

/-! ## The IRQ counter -/

theorem ask_configureIrq (h : UnderControl board control selected bench)
    (hirq : board.descriptor.supportsIrq = true) {period : Nat} (hpos : 0 < period)
    (hmax : period ≤ board.descriptor.irq.maxPeriod) (enabled : Bool) :
    Returns (bench.ask .irq "IRQ" (.configureIrq period enabled))
      (UnderControl board control selected) :=
  h.ask (fun _ hnow => ⟨_, _, .configureIrq hirq hpos hmax, hnow⟩) _ _

theorem ask_acknowledgeIrq (h : UnderControl board control selected bench)
    (hirq : board.descriptor.supportsIrq = true) :
    Returns (bench.ask .irq "IRQ acknowledge" .acknowledgeIrq)
      (UnderControl board control selected) :=
  h.ask (fun _ hnow => ⟨_, _, .acknowledgeIrq hirq, hnow⟩) _ _

theorem advance (h : UnderControl board control selected bench) (kind : IrqKind) (count : Nat) :
    UnderControl board control selected (bench.advance kind count) :=
  h.onConsole _

/-- Whatever the line does, no selection moves. -/
theorem irqChecks (h : UnderControl board control selected bench)
    (hirq : board.descriptor.supportsIrq = true) :
    Returns (Bench.irqChecks board.descriptor.irq bench)
      (UnderControl board control selected) := by
  have hkind : board.descriptor.irq ≠ .none := of_decide_eq_true hirq
  obtain ⟨hpos, hmax⟩ := irqPeriod_fits hkind
  unfold Bench.irqChecks
  dsimp only
  -- Only that the period fits the counter matters, not which one the check takes.
  generalize irqPeriod board.descriptor.irq = period at hpos hmax
  refine (h.ask_configureIrq hirq hpos hmax true).bind fun armed hnow => ?_
  have hfired := (hnow.advance board.descriptor.irq (period - 1)).advance board.descriptor.irq 1
  refine ((hfired.check .irq (by decide) _ _).ask_acknowledgeIrq hirq).bind fun taken hnow => ?_
  refine ((hnow.check .irq (by decide) _ _).ask_configureIrq hirq hpos hmax false).bind
    fun masked hnow => ?_
  have hsilent := (hnow.advance board.descriptor.irq (period * 2)).check .irq (by decide)
    (!(masked.advance board.descriptor.irq (period * 2)).irqLine) .irqNotMasked
  rw [hsilent.request_of_refused fun now _ =>
    Board.respond_tooLong hirq (Nat.lt_succ_self _) now]
  exact Returns.pure (hsilent.check .irq (by decide) _ _)

theorem irq (h : UnderControl board control selected bench) :
    UnderControl board control selected bench.irq := by
  unfold Bench.irq
  rw [h.desc_eq]
  split
  next => exact h
  next kind hkind => exact (h.irqChecks (decide_eq_true hkind)).finish

/-- The selections have some value, whatever it is. -/
theorem exists_eq (h : UnderControl board control selected bench) :
    ∃ before, selected before ∧ UnderControl board control (· = before) bench := by
  obtain ⟨before, hbefore, hselected⟩ := h.shadow
  exact ⟨before, hselected, h.board_eq, h.control_eq, before, hbefore, rfl⟩

end UnderControl

end Bench

/-! ## Routines -/

/-- What a routine leaves of the selections that it met. -/
def Routine.Leaves (board : Board) (before after : Shadow) : Routine → Prop
  | prgBanks =>
    before.PrgOnly after ∧
      ∀ number < board.descriptor.prgWindows.length, after.prgBank number = 0
  | prgSize =>
    before.PrgOnly after ∧
      (∀ number ≠ 0, after.prgBank number = before.prgBank number) ∧
      if board.descriptor.prgWindows = [] then after = before else after.prgBank 0 = 0
  | chrBanks =>
    before.ChrOnly after ∧
      ∀ number window, board.descriptor.chrWindows[number]? = some window →
        after.chrBank number = if window.latch.isNone then 0 else before.chrBank number
  | chrLatches => before.ChrOnly after
  | wram => before.Opened after
  | mirroring => before.MirroringOnly after
  | irq => after = before

/-- The bank check goes through the windows without a latch. -/
theorem Board.mem_plainChrWindows_iff {board : Board} {number : Nat} {window : Window}
    (hwindow : board.descriptor.chrWindows[number]? = some window) :
    number ∈ board.plainChrWindows.map Prod.snd ↔ window.latch.isNone = true := by
  constructor
  · intro hmem
    obtain ⟨⟨other, _⟩, hentry, rfl⟩ := List.mem_map.mp hmem
    obtain ⟨hother, hlatch⟩ := Board.of_mem_plainChrWindows hentry
    cases hwindow.symm.trans hother
    exact Option.isNone_iff_eq_none.mpr hlatch
  · intro hlatch
    exact List.mem_map.mpr ⟨(window, number),
      List.mem_filter.mpr ⟨List.mem_zipIdx_iff_getElem?.mpr hwindow, hlatch⟩, rfl⟩

namespace Bench.UnderControl

variable {board : Board} {control : Bool} {selected : Shadow → Prop} {bench : Bench}
  {before : Shadow}

theorem prgBanks_leaves (h : UnderControl board control (· = before) bench) :
    UnderControl board control (Routine.prgBanks.Leaves board before ·) bench.prgBanks := by
  refine h.prgBanks.mono fun now hnow => ?_
  subst hnow
  refine ⟨rfl, fun number hnumber => ?_⟩
  have hmem : number ∈ board.descriptor.prgWindows.zipIdx.map Prod.snd := by
    rw [List.zipIdx_map_snd, List.mem_range'_1]
    omega
  exact (getD_clearBanks ..).trans (if_pos hmem)

theorem prgSize_leaves (h : UnderControl board control (· = before) bench) :
    UnderControl board control (Routine.prgSize.Leaves board before ·) bench.prgSize := by
  cases hwindows : board.descriptor.prgWindows with
  | nil =>
    rw [h.prgSize_of_nil hwindows]
    refine h.mono fun now hnow => ?_
    subst hnow
    exact ⟨rfl, fun _ _ => rfl, by rw [if_pos hwindows]⟩
  | cons window rest =>
    refine (h.prgSize hwindows).mono fun now hnow => ?_
    subst hnow
    have hbank : ∀ number, (before.setPrg 0 0).prgBank number =
        if number = 0 then 0 else before.prgBank number := getD_clearBank before.prg 0
    refine ⟨rfl, fun number hnumber => (hbank number).trans (if_neg hnumber), ?_⟩
    rw [if_neg (by rw [hwindows]; exact List.cons_ne_nil _ _)]
    exact hbank 0

theorem chrBanks_leaves (h : UnderControl board control (· = before) bench) :
    UnderControl board control (Routine.chrBanks.Leaves board before ·) bench.chrBanks := by
  refine h.chrBanks.mono fun now hnow => ?_
  subst hnow
  refine ⟨rfl, fun number window hwindow => (getD_clearBanks ..).trans ?_⟩
  simp only [Board.mem_plainChrWindows_iff hwindow]
  rfl

/-- Each routine puts back what it moved, whatever it met. -/
theorem perform (h : UnderControl board control (· = before) bench) (routine : Routine)
    (hwram : routine = .wram → board.descriptor.hasWram = true) :
    UnderControl board control (routine.Leaves board before ·) (routine.perform bench) := by
  cases routine with
  | prgBanks => exact h.prgBanks_leaves
  | prgSize => exact h.prgSize_leaves
  | chrBanks => exact h.chrBanks_leaves
  | chrLatches => exact h.chrLatches
  | wram => exact h.wram (hwram rfl)
  | mirroring => exact h.mirroring
  | irq => exact h.irq

/-- No routine of a run sets out without what it needs. -/
theorem performAll_plan (h : UnderControl board control selected bench) :
    UnderControl board control (fun _ => True)
      (bench.performAll (Routine.plan board.descriptor)) := by
  have hstart : UnderControl board control (fun _ => True) bench := h.mono fun _ _ => trivial
  refine List.foldlRecOn _ _ hstart fun now hnow routine hmem => ?_
  obtain ⟨before, -, hbefore⟩ := hnow.exists_eq
  have hwram : routine = .wram → board.descriptor.hasWram = true := by
    rintro rfl
    exact (List.mem_filter.mp hmem).2
  exact (hbefore.perform routine hwram).mono fun _ _ => trivial

end Bench.UnderControl

/-! ## Runs -/

/-- Bringing a board up is never refused, up or not, and leaves what it always leaves. -/
theorem Bench.underControl_bringUp (bench : Bench) :
    UnderControl bench.board (bench.report.failures.contains .control)
      (· = .atBringUp bench.board) (bench.request .bringUp).2 := by
  have hperform : ∃ select, bench.session.controller.perform .bringUp =
      .ok ({ bench.session.controller with shadow := some (.atBringUp bench.board), select },
        bench.board.bringUpWrites) := by
    unfold Controller.perform
    cases bench.session.controller.shadow with
    | none => exact ⟨_, rfl⟩
    | some shadow => exact ⟨_, rfl⟩
  obtain ⟨select, hperform⟩ := hperform
  rw [Bench.request, Session.request, hperform]
  exact ⟨rfl, rfl, _, rfl, rfl⟩

theorem Bench.UnderControl.bringUp {board : Board} {control : Bool} {selected : Shadow → Prop}
    {bench : Bench} (h : UnderControl board control selected bench) :
    UnderControl board control (· = .atBringUp board) (bench.request .bringUp).2 := by
  rw [← h.board_eq, ← h.control_eq]
  exact bench.underControl_bringUp

/-- A new report says nothing of refusals. -/
theorem Bench.control_start (session : Session Console) :
    (Bench.start session).report.failures.contains .control = false := by
  show CheckSet.contains {} .control = false
  decide

theorem Bench.underControl_run (session : Session Console) :
    UnderControl session.controller.board false (· = .atBringUp session.controller.board)
      (Bench.run session) := by
  have hup := (Bench.start session).underControl_bringUp
  rw [Bench.control_start] at hup
  have hall := hup.performAll_plan
  rw [← hup.desc_eq] at hall
  exact hall.bringUp

/-- Whatever is in the console, and whatever a check finds there: a routine that its board can take
puts back what it moved and leaves all other selections alone, nothing is refused, and a whole run
ends as bringing the board up does, whether it was up before or not. -/
theorem diagnostics_put_back :
    (∀ (bench : Bench) (before : Shadow), bench.session.controller.shadow = some before →
      ∀ routine : Routine, (routine = .wram → bench.desc.hasWram = true) →
        let ran := routine.perform bench
        (∃ after, ran.session.controller.shadow = some after ∧
          routine.Leaves bench.board before after) ∧
        ran.report.failures.contains .control = bench.report.failures.contains .control) ∧
      ∀ session : Session Console,
        let ran := Bench.run session
        ran.session.controller.shadow = some (.atBringUp session.controller.board) ∧
          ran.report.failures.contains .control = false := by
  refine ⟨fun bench before hbefore routine hwram => ?_, fun session => ?_⟩
  · have hran := Bench.UnderControl.perform ⟨rfl, rfl, before, hbefore, rfl⟩ routine hwram
    exact ⟨hran.shadow, hran.control_eq⟩
  · have hran := Bench.underControl_run session
    obtain ⟨after, hafter, rfl⟩ := hran.shadow
    exact ⟨hafter, hran.control_eq⟩

/-- An MMC3 controller over a board without registers, the one byte of which is no bank's number.
The bank check fails, and the bank that was selected before is put back to 0 all the same. -/
theorem diagnostics_put_back_foreign :
    let cart := Cartridge.ofParts .nrom #[0xFF] (.ram 0) .horizontal
    let up := ((Session.start .mmc3 (Console.powerOn cart)).request .bringUp).2
    let session := (up.request (.selectPrg 1 5)).2
    session.controller.prgBank 1 = .ok 5 ∧
      (∃ after,
        (Routine.prgBanks.perform (.start session)).session.controller.shadow = some after ∧
          after.prgBank 1 = 0 ∧ after.wram = some .readWrite) ∧
      (Routine.prgBanks.perform (.start session)).report.failures.contains .prgBanks = true ∧
      (Routine.prgBanks.perform (.start session)).report.failures.contains .control = false := by
  intro cart up session
  have hbefore : session.controller.shadow =
      some { Shadow.atBringUp .mmc3 with prg := [0, 5] } := by decide +kernel
  have hselected : session.controller.prgBank 1 = .ok 5 := by decide +kernel
  have hwindows : 1 < (Bench.start session).board.descriptor.prgWindows.length := by
    decide +kernel
  obtain ⟨⟨after, hafter, honly, hbanks⟩, hcontrol⟩ :=
    diagnostics_put_back.1 (.start session) _ hbefore .prgBanks nofun
  rw [Bench.control_start] at hcontrol
  have hwram : after.wram = some .readWrite := by
    rw [honly]
    rfl
  exact ⟨hselected, ⟨after, hafter, hbanks 1 hwindows, hwram⟩, by decide +kernel, hcontrol⟩

end NesCartridge
