/-
  NesCartridge.Proofs.TileLatches

  The tile latches of MMC2 and MMC4. Each half of pattern memory shows one of two banks, and which
  one is decided by the trigger tile of that half that the PPU touched last. Main statement: after
  any run a read of pattern memory finds the bank that was selected last for the window that the
  latch shows, the latch being what the accesses before this one made of it
  (`patterns_follow_latches`).
-/
import NesCartridge.Proofs.PatternReads

namespace NesCartridge

/-! ## Triggers -/

/-- How many bytes after the first one of a trigger tile's row count too. MMC2 decodes the low half
to the byte. -/
def Board.triggerReach (board : Board) (half : Nat) : Nat :=
  if board = .mmc2 ∧ half = 0 then 0 else 7

/-- State in which an access to pattern memory leaves the latch of a half, if it is a trigger. -/
def Board.trigger? (board : Board) (half addr : Nat) : Option TileLatch :=
  let fd := half * 0x1000 + 0x0FD8
  let fe := half * 0x1000 + 0x0FE8
  if fd ≤ addr ∧ addr ≤ fd + board.triggerReach half then some .fd
  else if fe ≤ addr ∧ addr ≤ fe + board.triggerReach half then some .fe
  else none

/-- State of the latch of a half after some actions: the last trigger counts, and the second tile
without one. -/
def Board.latchAfter (board : Board) (half : Nat) (made : List Action) : TileLatch :=
  (latest? (fun action => action.patternAddr?.bind fun addr =>
    board.trigger? half addr.toNat) made).getD .fe

theorem Board.latchAfter_append (board : Board) (half : Nat) (made : List Action)
    (action : Action) :
    board.latchAfter half (made ++ [action]) =
      (action.patternAddr?.bind fun addr => board.trigger? half addr.toNat).getD
        (board.latchAfter half made) := by
  rw [latchAfter, latest?_append, latchAfter]
  cases action.patternAddr?.bind fun addr => board.trigger? half addr.toNat with
  | none => rfl
  | some latch => rfl

theorem Board.triggerReach_le (board : Board) (half : Nat) : board.triggerReach half ≤ 7 := by
  rw [triggerReach]
  split <;> decide

/-- The triggers of a half lie in it. -/
theorem Board.half_of_trigger? {board : Board} {half addr : Nat} {latch : TileLatch}
    (h : board.trigger? half addr = some latch) : addr / 0x1000 = half := by
  have hreach := board.triggerReach_le half
  simp only [trigger?] at h
  split at h
  next => omega
  next =>
    split at h
    next => omega
    next => cases h

/-! ## The chip -/

namespace Mmc2

/-- State of the latch of a half of pattern memory. -/
def latch (chip : Mmc2) (half : Nat) : TileLatch :=
  if half = 0 then chip.low.latch else chip.high.latch

theorem latch_write (chip : Mmc2) (addr : UInt16) (data : UInt8) (half : Nat) :
    (chip.write addr data).latch half = chip.latch half := by
  unfold Mmc2.write
  split <;> rfl

theorem half_latch (chip : Mmc2) (addr : UInt16) :
    (chip.half addr).latch = chip.latch (addr.toNat / 0x1000 % 2) := by
  rw [half, latch]
  split <;> rfl

section Triggers

variable {chip : Mmc2} {board : Board} (hkind : chip.isMmc4 = decide (board ≠ .mmc2))

include hkind

theorem lowTrigger?_eq (offset : Nat) : chip.lowTrigger? offset = board.trigger? 0 offset := by
  have hplace : ∀ start : Nat, start % 8 = 0 →
      ((if chip.isMmc4 = true then offset / 8 * 8 else offset) = start ↔
        start ≤ offset ∧ offset ≤ start + board.triggerReach 0) := by
    intro start hstart
    rw [hkind, Board.triggerReach]
    by_cases hmmc2 : board = .mmc2
    · rw [if_neg (by simp [hmmc2]), if_pos ⟨hmmc2, rfl⟩]
      omega
    · rw [if_pos (by simp [hmmc2]), if_neg fun h => hmmc2 h.1]
      omega
  simp only [lowTrigger?, Board.trigger?, hplace 0x0FD8 rfl, hplace 0x0FE8 rfl, Nat.zero_mul,
    Nat.zero_add]

omit hkind in
theorem highTrigger?_eq (board : Board) (offset : Nat) :
    highTrigger? offset = board.trigger? 1 offset := by
  have hreach : board.triggerReach 1 = 7 := if_neg fun h => absurd h.2 (by decide)
  have hplace : ∀ start : Nat, start % 8 = 0 →
      (offset / 8 * 8 = start ↔ start ≤ offset ∧ offset ≤ start + board.triggerReach 1) := by
    intro start hstart
    rw [hreach]
    omega
  simp only [highTrigger?, Board.trigger?, hplace 0x1FD8 rfl, hplace 0x1FE8 rfl, Nat.one_mul,
    Nat.reduceAdd]

/-- A trigger sets the latch of its own half. -/
theorem latch_fetched {half : Nat} (hhalf : half < 2) {addr : UInt16}
    (haddr : addr.toNat < 0x2000) :
    (chip.fetched addr).latch half = (board.trigger? half addr.toNat).getD (chip.latch half) := by
  rw [fetched, Nat.mod_eq_of_lt haddr, lowTrigger?_eq hkind, highTrigger?_eq board]
  have hcases : half = 0 ∨ half = 1 := by omega
  cases hlow : board.trigger? 0 addr.toNat with
  | some state =>
    have hhigh : board.trigger? 1 addr.toNat = none := by
      have hhalf := Board.half_of_trigger? hlow
      cases htrigger : board.trigger? 1 addr.toNat with
      | none => rfl
      | some other => rw [Board.half_of_trigger? htrigger] at hhalf; cases hhalf
    rcases hcases with rfl | rfl
    · rw [hlow]
      rfl
    · rw [hhigh]
      rfl
  | none =>
    rcases hcases with rfl | rfl
    · rw [hlow]
      cases board.trigger? 1 addr.toNat <;> rfl
    · cases board.trigger? 1 addr.toNat <;> rfl

end Triggers

end Mmc2

namespace Chip

/-- Kind of the chip and state of the latch of a half, on chips that have latches. -/
def latch? (half : Nat) : Chip → Option (Bool × TileLatch)
  | .mmc2 c => some (c.isMmc4, c.latch half)
  | _ => none

theorem latch?_write (half : Nat) (chip : Chip) (addr : UInt16) (data : UInt8) :
    (chip.write addr data).latch? half = chip.latch? half := by
  cases chip with
  | mmc2 c =>
    rw [write, latch?, latch?, isMmc4_write, Mmc2.latch_write]
  | nrom | mmc1 | mmc3 | action53 | fme7 | discrete => rfl

theorem latch?_clocks (half : Nat) (chip : Chip) (cycles : Nat) :
    (cycles.repeat clock chip).latch? half = chip.latch? half := by
  induction cycles with
  | zero => rfl
  | succ cycles ih =>
    rw [Nat.repeat, ← ih]
    generalize cycles.repeat clock chip = now
    cases now <;> rfl

theorem eq_mmc2_of_latch? {half : Nat} {chip : Chip} {kind : Bool} {state : TileLatch}
    (h : chip.latch? half = some (kind, state)) : ∃ c, chip = .mmc2 c ∧ c.latch half = state := by
  cases chip with
  | mmc2 c => exact ⟨c, rfl, (Prod.mk.inj (Option.some.inj h)).2⟩
  | nrom | mmc1 | mmc3 | action53 | fme7 | discrete => cases h

/-- Of the actions only pattern accesses move a latch, and of those only its triggers. -/
theorem latch?_onChip {board : Board} {half : Nat} (hhalf : half < 2) {chip : Chip}
    {state : TileLatch} (h : chip.latch? half = some (decide (board ≠ .mmc2), state))
    (action : Action) :
    (action.onChip chip).latch? half = some (decide (board ≠ .mmc2),
      (action.patternAddr?.bind fun addr => board.trigger? half addr.toNat).getD state) := by
  rw [Action.onChip, latch?_clocks]
  cases haccess : action.patternAddr? with
  | none => exact h
  | some addr =>
    have haddr : addr.toNat < 0x2000 := Action.patternAddr?_lt haccess
    cases chip with
    | mmc2 c =>
      obtain ⟨hkind, hstate⟩ := Prod.mk.inj (Option.some.inj h)
      show some ((c.fetched addr).isMmc4, (c.fetched addr).latch half) = _
      rw [isMmc4_fetched, Mmc2.latch_fetched hkind hhalf haddr, hkind, hstate]
      rfl
    | nrom | mmc1 | mmc3 | action53 | fme7 | discrete => cases h

end Chip

/-- After any run from power-on, raw register writes included, the latches are what the pattern
accesses made of them. -/
theorem Script.latch?_run {board : Board} (hboard : board = .mmc2 ∨ board = .mmc4)
    (header : Header) (prg : Memory) (chr : Chr) (solder : Mirroring) {half : Nat}
    (hhalf : half < 2) (script : Script Action) :
    (script.run Action.perform (.powerOn board header prg chr solder)).2.bus.chip.latch? half =
      some (decide (board ≠ .mmc2), board.latchAfter half script.actions) := by
  have hstart : (Session.powerOn board header prg chr solder).bus.chip.latch? half =
      some (decide (board ≠ .mmc2), board.latchAfter half []) := by
    show (Chip.powerOn board solder).latch? half = some (_, .fe)
    rcases hboard with rfl | rfl
    · show some (false, Mmc2.latch { isMmc4 := false } half) = _
      rw [Mmc2.latch, ite_self]
      rfl
    · show some (true, Mmc2.latch { isMmc4 := true } half) = _
      rw [Mmc2.latch, ite_self]
      rfl
  have hfollow : ∀ made (action : Action) (chip : Chip),
      chip.latch? half = some (decide (board ≠ .mmc2), board.latchAfter half made) →
        (action.onChip chip).latch? half =
          some (decide (board ≠ .mmc2), board.latchAfter half (made ++ [action])) := by
    intro made action chip hchip
    rw [Board.latchAfter_append]
    exact Chip.latch?_onChip hhalf hchip action
  exact Script.view_run (Chip.latch?_write half) hfollow hstart script

/-! ## Reads -/

/-- Either latch shows one of the four windows. -/
theorem Mmc2.shownWindow_lt {half : Nat} (hhalf : half < 2) (latch : TileLatch) :
    shownWindow half latch < 4 := by
  cases latch with
  | fd => rw [shownWindow]; omega
  | fe => rw [shownWindow]; omega

namespace InStep

variable {board : Board} {prg : Memory} {solder : Mirroring} {session : Session Console}
  {shadow : Shadow}

/-- A pattern address reads the bank of the window that the latch of its half shows. -/
theorem readPpu_latched (h : InStep board prg solder session)
    (hshadow : session.controller.shadow = some shadow) {chip : Mmc2}
    (hchip : session.bus.chip = .mmc2 chip) (hpos : 0 < session.bus.patterns.cells.size)
    (hdvd : 0x2000 ∣ session.bus.patterns.cells.size) {addr : UInt16}
    (haddr : addr.toNat % 0x4000 < 0x2000) :
    let place := addr.toNat % 0x4000
    let half := place / 0x1000
    session.bus.patterns.cells[(shadow.chrBank (Mmc2.shownWindow half (chip.latch half)) * 0x1000 +
        place % 0x1000) % session.bus.patterns.cells.size]? =
      some (session.bus.readPpu addr).1 := by
  intro place half
  obtain ⟨hfits, hholds⟩ := h.shadow shadow hshadow
  rw [hchip] at hholds
  have hplace : (Console.ppuAddr addr).toNat = place := Console.toNat_ppuAddr addr
  have hhalf : place / 0x1000 % 2 = half := Nat.mod_eq_of_lt (by omega)
  have hbank := Mmc2.Holds.chrBank_eq hholds hfits (Console.ppuAddr addr)
  rw [Mmc2.half_latch, hplace, hhalf] at hbank
  have href : session.bus.cart.hardware.chip.chrRef (Console.ppuAddr addr) =
      ⟨shadow.chrBank (Mmc2.shownWindow half (chip.latch half)), 0x1000⟩ := by
    show session.bus.chip.chrRef _ = _
    rw [hchip]
    exact congrArg (BankRef.mk · 0x1000) hbank
  have hcell := bankedIndex_eq_mod hpos (by decide)
    (Or.inl (Nat.dvd_trans (by decide : 0x1000 ∣ 0x2000) hdvd))
    (shadow.chrBank (Mmc2.shownWindow half (chip.latch half))) place
  rw [Console.readPpu_of_lt _ haddr, Hardware.readChr, href, hplace, ← hcell]
  exact Memory.getElem?_bankedIndex hpos ..

end InStep

/-- On MMC2 and MMC4, from power-on and through any run that starts with the board brought up: a
read of pattern memory finds, in the window of its half that the latch shows, the bank last accepted
for that window. The latch is what the last trigger of that half made it, by an access before this
one. -/
theorem patterns_follow_latches (board : Board) (hboard : board = .mmc2 ∨ board = .mmc4)
    (prg : Memory) (chr : Chr) (solder : Mirroring) (hpos : 0 < chr.cells.size)
    (hdvd : 0x2000 ∣ chr.cells.size) (script : Script Action)
    (hlow : script.Forall Action.StaysLow) :
    let ran := (Script.act (.request .bringUp) script).run Action.perform
      (Session.start board (Console.powerOn (Cartridge.ofParts board prg chr solder)))
    let patterns := ran.2.bus.patterns
    chr.SameKind patterns ∧
      ∀ addr : UInt16, addr.toNat % 0x4000 < 0x2000 →
        let place := addr.toNat % 0x4000
        let half := place / 0x1000
        let window := Mmc2.shownWindow half (board.latchAfter half script.actions)
        ran.2.controller.chrBank window = .ok (ran.1.chrBank window) ∧
          patterns.cells[(ran.1.chrBank window * 0x1000 + place % 0x1000) % chr.cells.size]? =
            some (ran.2.bus.readPpu addr).1 := by
  intro ran patterns
  have hlatches : board.descriptor.hasTileLatches = true := by
    rcases hboard with rfl | rfl <;> rfl
  have hquiet : prg.Quiet board := by
    refine Memory.quiet_of_no_conflicts ?_ prg
    rcases hboard with rfl | rfl <;> rfl
  have hother : board ≠ .action53 := by
    rcases hboard with rfl | rfl <;> decide
  let start := Session.start board (Console.powerOn (Cartridge.ofParts board prg chr solder))
  let whole := Script.act (.request .bringUp) script
  have hstart : InStep board prg solder start := InStep.start rfl
  have hwhole : whole.Forall Action.StaysLow := ⟨trivial, hlow⟩
  have hstep : InStep board prg solder ran.2 := hstart.run_of_sparesChip hquiet
    (fun _ haction _ hnow => hnow.sparesChip hother haction) hwhole
  have hkind : chr.SameKind patterns := ((OnBoard.powerOn board _ prg chr solder).run whole).kind
  obtain ⟨shadow, hshadow, -, hnoted⟩ := (Session.follows_bringUp_run hstart.board_eq script).shadow
  refine ⟨hkind, fun addr haddr => ?_⟩
  intro place half window
  have hhalf : half < 2 := by omega
  obtain ⟨chip, hchip, hlatch⟩ := Chip.eq_mmc2_of_latch?
    (Script.latch?_run hboard start.bus.cart.header prg chr solder hhalf whole)
  have hlatch : chip.latch half = board.latchAfter half script.actions := hlatch
  have hbank : shadow.chrBank window = ran.1.chrBank window := hnoted _ (.chrBank board window)
  have hentry : board.descriptor.chrWindows[window]? =
      some (tileLatchWindows.get ⟨window, Mmc2.shownWindow_lt hhalf _⟩) := by
    rw [Mmc2.chrWindows_eq hlatches]
    exact List.getElem?_eq_getElem _
  have hsize : ran.2.bus.patterns.cells.size = chr.cells.size := hkind.size
  have hread := hstep.readPpu_latched hshadow hchip (hsize.symm ▸ hpos) (hsize.symm ▸ hdvd) haddr
  dsimp only at hread
  rw [hsize, hlatch] at hread
  exact ⟨hbank ▸ hstep.chrBank_eq hshadow hentry, hbank ▸ hread⟩

/-- On MMC2 the low half goes to the first tile at one address, seen here through the repetition of
the address space, and a write elsewhere in the row of the second tile does not bring it back. -/
theorem patterns_follow_latches_mmc2 :
    let prg := taggedPrg 0x8000
    let chr := Chr.ram 0x8000
    let script : Script Action :=
      .act (.request (.selectChr 0 4))
        (.handler (.act (.readPpu 0x4FD8) (.act (.writePpu 0x0FEF 0x00) .done))
          (.act (.readPpu 0x1FE8) .done))
    let ran := (Script.act (.request .bringUp) script).run Action.perform
      (Session.start .mmc2 (Console.powerOn (Cartridge.ofParts .mmc2 prg chr .vertical)))
    0 < chr.cells.size ∧ 0x2000 ∣ chr.cells.size ∧ script.Forall Action.StaysLow ∧
      ran.2.controller.chrBank 0 = .ok 4 ∧
        ran.2.bus.patterns.cells[0x4234 % chr.cells.size]? =
          some (ran.2.bus.readPpu 0x0234).1 := by
  intro prg chr script ran
  have hsize : chr.cells.size = 0x8000 := Array.size_replicate
  have hpos : 0 < chr.cells.size := by rw [hsize]; decide
  have hdvd : 0x2000 ∣ chr.cells.size := by rw [hsize]; decide
  have hlow : script.Forall Action.StaysLow :=
    ⟨trivial, ⟨trivial, trivial, trivial⟩, trivial, trivial⟩
  have hplace : (0x0234 : UInt16).toNat % 0x4000 = 0x0234 := rfl
  have hlatch : Board.mmc2.latchAfter 0 script.actions = .fd := rfl
  have hbank : ran.1.chrBank 0 = 4 := rfl
  have hreads := (patterns_follow_latches .mmc2 (Or.inl rfl) prg chr .vertical hpos hdvd script
    hlow).2 0x0234 (by decide)
  simp only [hplace, Nat.reduceDiv, Nat.reduceMod, hlatch, Mmc2.shownWindow, Nat.mul_zero] at hreads
  rw [hbank] at hreads
  exact ⟨hpos, hdvd, hlow, hreads⟩

end NesCartridge
