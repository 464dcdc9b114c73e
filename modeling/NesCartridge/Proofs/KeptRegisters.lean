/-
  NesCartridge.Proofs.KeptRegisters

  A register that holds several things at once can be kept as a byte and changed in place: a
  request sets its own bits and leaves the others. The controller makes such a byte anew from its
  shadow each time. Main statements: after every accepted request the two are the same byte
  (`KeptRegisters.Matches.answers`), the request sends just that byte
  (`KeptRegisters.Matches.writes_eq`), and so it goes on through any run of requests on any bus
  (`Session.sends_kept_registers`).
-/
import NesCartridge.Proofs.Choices
import NesCartridge.Proofs.LatchFields

namespace NesCartridge

/-- The registers of MMC1, of Action 53 and of the discrete boards that hold more than one thing. A
board uses its own and leaves the others alone. -/
structure KeptRegisters where
  latch : UInt8 := 0
  mmc1Control : UInt8 := 0
  mmc1Prg : UInt8 := 0
  action53Mode : UInt8 := 0
  deriving DecidableEq

namespace KeptRegisters

/-! ## Registers changed in place -/

/-- Bit 4 of CHR and inner bank writes, read off the mode register of Action 53. -/
def action53Screen (kept : KeptRegisters) : UInt8 :=
  if kept.action53Mode &&& 0x02 = 0 ∧ kept.action53Mode &&& 0x01 ≠ 0 then 0x10 else 0

/-- A value on its way into a field of the latch. -/
def insertLatch (kept : KeptRegisters) (insert : FieldInsert) : KeptRegisters :=
  { kept with latch := insert.perform kept.latch }

/-- The registers after an accepted request. -/
def update (board : Board) (kept : KeptRegisters) (req : Request) : KeptRegisters :=
  match board, req with
  | .mmc1, .bringUp => { kept with mmc1Control := 0x1E, mmc1Prg := 0 }
  | .mmc1, .selectPrg _ bank =>
    { kept with mmc1Prg := (kept.mmc1Prg &&& 0x10) ||| UInt8.ofNat bank }
  | .mmc1, .setMirroring mode =>
    { kept with mmc1Control := (kept.mmc1Control &&& ~~~0x03) ||| mode.screenFirstBits }
  | .mmc1, .setWram .disabled => { kept with mmc1Prg := kept.mmc1Prg ||| 0x10 }
  | .mmc1, .setWram _ => { kept with mmc1Prg := kept.mmc1Prg &&& ~~~0x10 }
  | .action53, .bringUp => { kept with action53Mode := 0x3E }
  | .action53, .setMirroring mode =>
    { kept with action53Mode := (kept.action53Mode &&& ~~~0x03) ||| mode.screenFirstBits }
  | _, .bringUp => if board.descriptor.latch.isSome then { kept with latch := 0 } else kept
  | _, req => ((board.descriptor.latch.bind req.fieldInsert?).map kept.insertLatch).getD kept

/-- The writes of an accepted request that sends kept registers, as they are after it. -/
def writes? (board : Board) (kept : KeptRegisters) (req : Request) :
    Option (List RegisterWrite) :=
  match board, req with
  | .mmc1, .bringUp =>
    some (⟨Address.mmc1Control, 0x80⟩
      :: (serialWrites Address.mmc1Control kept.mmc1Control ++ serialWrites Address.mmc1Chr0 0
        ++ serialWrites Address.mmc1Chr1 0 ++ serialWrites Address.mmc1Prg kept.mmc1Prg))
  | .mmc1, .selectPrg .. | .mmc1, .setWram _ =>
    some (serialWrites Address.mmc1Prg kept.mmc1Prg)
  | .mmc1, .setMirroring _ => some (serialWrites Address.mmc1Control kept.mmc1Control)
  | .action53, .bringUp =>
    some (action53Writes 0x80 kept.action53Mode ++ action53Writes 0x81 0 ++ action53Writes 0x00 0
      ++ action53Writes 0x01 0)
  | .action53, .selectPrg _ bank =>
    some (action53Writes 0x01 (UInt8.ofNat bank ||| kept.action53Screen))
  | .action53, .selectChr _ bank =>
    some (action53Writes 0x00 (UInt8.ofNat bank ||| kept.action53Screen))
  | .action53, .setMirroring _ => some (action53Writes 0x80 kept.action53Mode)
  | _, _ => board.descriptor.latch.map fun _ => latchWrites board.descriptor kept.latch

/-- The registers hold what the shadow says, each on the boards that have it. -/
structure Matches (kept : KeptRegisters) (board : Board) (shadow : Shadow) : Prop where
  latch : ∀ layout, board.descriptor.latch = some layout → kept.latch = shadow.latchByte layout
  mmc1Control : board = .mmc1 → kept.mmc1Control = shadow.mmc1Control
  mmc1Prg : board = .mmc1 → kept.mmc1Prg = shadow.mmc1Prg
  action53Mode : board = .action53 → kept.action53Mode = shadow.action53Mode

/-! ## Bits that a request sets -/

/-- A mode replaces the mode before it and none of the bits above. -/
theorem screenFirstBits_replace (mode next : Mirroring) (above : UInt8)
    (habove : above = 0x1C ∨ above = 0x3C) :
    ((above ||| mode.screenFirstBits) &&& ~~~0x03) ||| next.screenFirstBits =
      above ||| next.screenFirstBits := by
  rcases habove with rfl | rfl <;> cases mode <;> cases next <;> rfl

/-- The bit over the bank is not the bank's. -/
theorem ofNat_and_wramBit {bank : Nat} (h : bank ≤ 15) : UInt8.ofNat bank &&& 0x10 = 0 := by
  have hbits : ∀ bank ≤ 15, UInt8.ofNat bank &&& 0x10 = 0 := by decide
  exact hbits bank h

theorem ofNat_and_not_wramBit {bank : Nat} (h : bank ≤ 15) :
    UInt8.ofNat bank &&& ~~~0x10 = UInt8.ofNat bank := by
  have hbits : ∀ bank ≤ 15, UInt8.ofNat bank &&& ~~~0x10 = UInt8.ofNat bank := by decide
  exact hbits bank h

/-! ## One request -/

variable {kept : KeptRegisters} {board : Board} {current after : Shadow} {req : Request}
  {writes : List RegisterWrite}

/-- The first window of MMC1 is its only one. -/
theorem mmc1_prgWindow {number : Nat} {window : Window}
    (h : Board.mmc1.descriptor.prgWindows[number]? = some window) :
    number = 0 ∧ window.maxBank = 15 := by
  have hzero : number = 0 := Nat.lt_one_iff.mp (List.getElem?_eq_some_iff.mp h).1
  subst hzero
  cases h
  exact ⟨rfl, rfl⟩

theorem mmc1Control_update (h : kept.mmc1Control = current.mmc1Control)
    (hans : Board.mmc1.Answers current req after writes) :
    (kept.update .mmc1 req).mmc1Control = after.mmc1Control := by
  cases hans with
  | bringUp => rfl
  | @setMirroring mode =>
    show (kept.mmc1Control &&& ~~~0x03) ||| mode.screenFirstBits = _
    rw [h]
    exact screenFirstBits_replace _ _ _ (Or.inl rfl)
  | @setWram mode => cases mode <;> exact h
  | selectPrg | selectChr | configureIrq | acknowledgeIrq => exact h

theorem mmc1Prg_update (hfits : current.Fits .mmc1) (h : kept.mmc1Prg = current.mmc1Prg)
    (hans : Board.mmc1.Answers current req after writes) :
    (kept.update .mmc1 req).mmc1Prg = after.mmc1Prg := by
  have hle : current.prgBank 0 ≤ 15 := hfits.prg_le 0 _ rfl
  cases hans with
  | bringUp => rfl
  | @selectPrg number bank window hwindow hbank =>
    obtain ⟨rfl, hmax⟩ := mmc1_prgWindow hwindow
    have hafter : (current.setPrg 0 bank).prgBank 0 = bank := by
      rw [hfits.prgBank_setPrg hwindow, if_pos rfl]
    show (kept.mmc1Prg &&& 0x10) ||| UInt8.ofNat bank = _
    rw [h, Shadow.mmc1Prg, Shadow.mmc1Prg, hafter, or_and_distrib, ofNat_and_wramBit hle]
    -- What is left of the register is the bit of the work RAM.
    show (0 ||| ((if current.wram = some .disabled then 0x10 else 0) &&& 0x10)) ||| _ =
      UInt8.ofNat bank ||| (if current.wram = some .disabled then 0x10 else 0)
    split
    · exact UInt8.or_comm ..
    · exact UInt8.or_comm ..
  | @setWram mode =>
    cases mode with
    | disabled =>
      show kept.mmc1Prg ||| 0x10 = UInt8.ofNat (current.prgBank 0) ||| 0x10
      rw [h, Shadow.mmc1Prg, UInt8.or_assoc]
      split <;> rfl
    | readOnly | readWrite =>
      show kept.mmc1Prg &&& ~~~0x10 = UInt8.ofNat (current.prgBank 0) ||| 0
      rw [h, Shadow.mmc1Prg, or_and_distrib, ofNat_and_not_wramBit hle]
      split <;> rfl
  | selectChr | setMirroring | configureIrq | acknowledgeIrq => exact h

theorem action53Mode_update (h : kept.action53Mode = current.action53Mode)
    (hans : Board.action53.Answers current req after writes) :
    (kept.update .action53 req).action53Mode = after.action53Mode := by
  cases hans with
  | bringUp => rfl
  | @setMirroring mode =>
    show (kept.action53Mode &&& ~~~0x03) ||| mode.screenFirstBits = _
    rw [h]
    exact screenFirstBits_replace _ _ _ (Or.inr rfl)
  | selectPrg | selectChr | setWram | configureIrq | acknowledgeIrq => exact h

/-- On a board with a latch only the fields of the latch change. -/
theorem update_of_latch {layout : LatchLayout} (hlayout : board.descriptor.latch = some layout)
    (hup : req ≠ .bringUp) :
    kept.update board req = ((req.fieldInsert? layout).map kept.insertLatch).getD kept := by
  cases board with
  | nrom | mmc1 | mmc3 | mmc2 | mmc4 | action53 | fme7 => cases hlayout
  | uxRom | cnRom | axRom | colorDreams | unrom512 | bnRom | gnRom =>
    cases hlayout
    cases req with
    | bringUp => exact absurd rfl hup
    | selectPrg | selectChr | setMirroring | setWram | configureIrq | acknowledgeIrq => rfl

theorem latch_update {layout : LatchLayout} (hlayout : board.descriptor.latch = some layout)
    (hfits : current.Fits board) (h : kept.latch = current.latchByte layout)
    (hans : board.Answers current req after writes) (hup : req ≠ .bringUp) :
    (kept.update board req).latch = after.latchByte layout := by
  obtain ⟨insert, hinsert, hlatch⟩ := Request.latchByte_of_answers hlayout hfits hans hup
  rw [update_of_latch hlayout hup, hinsert, hlatch, ← h]
  rfl

/-- Whatever the registers were, bringing the board up sets those that it has. -/
theorem matches_bringUp (kept : KeptRegisters) (board : Board) :
    (kept.update board .bringUp).Matches board (.atBringUp board) where
  latch layout hlayout := by
    cases board with
    | nrom | mmc1 | mmc3 | mmc2 | mmc4 | action53 | fme7 => cases hlayout
    | uxRom | cnRom | axRom | colorDreams | unrom512 | bnRom | gnRom =>
      cases hlayout
      show 0 = (Shadow.atBringUp _).latchByte _
      decide
  mmc1Control := by
    rintro rfl
    rfl
  mmc1Prg := by
    rintro rfl
    rfl
  action53Mode := by
    rintro rfl
    rfl

/-- Registers that match go on matching. -/
theorem Matches.answers (h : kept.Matches board current) (hfits : current.Fits board)
    (hans : board.Answers current req after writes) :
    (kept.update board req).Matches board after := by
  by_cases hup : req = .bringUp
  · subst hup
    cases hans
    exact matches_bringUp kept board
  · refine ⟨fun layout hlayout => latch_update hlayout hfits (h.latch layout hlayout) hans hup,
      ?_, ?_, ?_⟩
    · rintro rfl
      exact mmc1Control_update (h.mmc1Control rfl) hans
    · rintro rfl
      exact mmc1Prg_update hfits (h.mmc1Prg rfl) hans
    · rintro rfl
      exact action53Mode_update (h.action53Mode rfl) hans

/-- In one-screen modes the mode register says which screen. -/
theorem Matches.action53Screen_eq (h : kept.Matches .action53 current) :
    kept.action53Screen = current.action53Screen := by
  rw [action53Screen, h.action53Mode rfl, Shadow.action53Mode, Shadow.action53Screen]
  cases current.mode <;> rfl

theorem mmc1_writes_eq (h : kept.Matches .mmc1 after)
    (hans : Board.mmc1.Answers current req after writes) {sent : List RegisterWrite}
    (hsent : kept.writes? .mmc1 req = some sent) : writes = sent := by
  have hcontrol := h.mmc1Control rfl
  have hprg := h.mmc1Prg rfl
  cases hans with
  | bringUp =>
    cases hsent
    rw [hcontrol, hprg]
    rfl
  | selectPrg | setWram =>
    cases hsent
    rw [hprg]
    rfl
  | setMirroring =>
    cases hsent
    rw [hcontrol]
    rfl
  | selectChr | configureIrq | acknowledgeIrq => cases hsent

theorem action53_writes_eq (h : kept.Matches .action53 after) (hfits : current.Fits .action53)
    (hans : Board.action53.Answers current req after writes) {sent : List RegisterWrite}
    (hsent : kept.writes? .action53 req = some sent) : writes = sent := by
  have hmode := h.action53Mode rfl
  have hscreen := h.action53Screen_eq
  cases hans with
  | bringUp =>
    cases hsent
    rw [hmode]
    rfl
  | @selectPrg number bank window hwindow =>
    cases hsent
    have hbank := hfits.prgBank_setPrg hwindow bank number
    rw [if_pos rfl] at hbank
    show action53Writes 0x01 (UInt8.ofNat ((current.setPrg number bank).prgBank number) ||| _) = _
    rw [hbank, hscreen]
  | @selectChr number bank window hwindow =>
    cases hsent
    have hbank := hfits.chrBank_setChr hwindow bank number
    rw [if_pos rfl] at hbank
    show action53Writes 0x00 (UInt8.ofNat ((current.setChr number bank).chrBank number) ||| _) = _
    rw [hbank, hscreen]
  | setMirroring =>
    cases hsent
    rw [hmode]
    rfl
  | setWram | configureIrq | acknowledgeIrq => cases hsent

/-- A request that goes through a kept register sends what is kept there. -/
theorem Matches.writes_eq (h : kept.Matches board after) (hfits : current.Fits board)
    (hans : board.Answers current req after writes) {sent : List RegisterWrite}
    (hsent : kept.writes? board req = some sent) : writes = sent := by
  cases hlayout : board.descriptor.latch with
  | some layout =>
    rw [Discrete.writes_of_answers hlayout hans, ← h.latch layout hlayout]
    cases board with
    | nrom | mmc1 | mmc3 | mmc2 | mmc4 | action53 | fme7 => cases hlayout
    | uxRom | cnRom | axRom | colorDreams | unrom512 | bnRom | gnRom =>
      cases hsent
      rfl
  | none =>
    cases board with
    | mmc1 => exact mmc1_writes_eq h hans hsent
    | action53 => exact action53_writes_eq h hfits hans hsent
    | nrom | mmc3 | mmc2 | mmc4 | fme7 => cases hsent
    | uxRom | cnRom | axRom | colorDreams | unrom512 | bnRom | gnRom => cases hlayout

/-! ## Runs of requests -/

/-- The registers after the requests of a history; a refused request changes none. -/
def follow (board : Board) (history : History) : KeptRegisters :=
  history.foldl (fun kept event =>
    match event.outcome with
    | .ok () => kept.update board event.request
    | .error _ => kept) {}

theorem follow_append (board : Board) (past : History) (event : Event) :
    follow board (past ++ [event]) =
      match event.outcome with
      | .ok () => (follow board past).update board event.request
      | .error _ => follow board past := by
  rw [follow, List.foldl_append]
  rfl

end KeptRegisters

/-- As soon as the board is up, registers changed in place match the shadow. -/
structure Controller.KeepsRegisters (ctl : Controller) (board : Board) (past : History) : Prop where
  board_eq : ctl.board = board
  shadow : ∀ shadow, ctl.shadow = some shadow →
    shadow.Fits board ∧ (KeptRegisters.follow board past).Matches board shadow

namespace Controller

variable {ctl next : Controller} {board : Board} {past : History} {req : Request}
  {writes : List RegisterWrite}

/-- An accepted request changes the registers in place and sends those that it changed. -/
theorem KeepsRegisters.perform (h : ctl.KeepsRegisters board past)
    (hperform : ctl.perform req = .ok (next, writes)) :
    next.KeepsRegisters board (past ++ [⟨req, .ok ()⟩]) ∧
      ∀ sent, (KeptRegisters.follow board (past ++ [⟨req, .ok ()⟩])).writes? board req = some sent →
        writes = sent := by
  obtain ⟨current, after, hans, hcurrent, rfl⟩ := perform_eq_ok hperform
  rw [h.board_eq] at hans
  have hfollow : KeptRegisters.follow board (past ++ [⟨req, .ok ()⟩]) =
      (KeptRegisters.follow board past).update board req := KeptRegisters.follow_append ..
  -- The first bring-up answers as any other does.
  obtain ⟨known, hfits, hanswers, hmatches⟩ : ∃ known : Shadow, known.Fits board ∧
      board.Answers known req after writes ∧
        ((KeptRegisters.follow board past).update board req).Matches board after := by
    rcases hcurrent with hshadow | rfl
    · obtain ⟨hfits, hmatches⟩ := h.shadow current hshadow
      exact ⟨current, hfits, hans, hmatches.answers hfits hans⟩
    · cases hans
      exact ⟨_, Shadow.fits_atBringUp board, .bringUp, KeptRegisters.matches_bringUp _ board⟩
  rw [← hfollow] at hmatches
  refine ⟨⟨h.board_eq, fun shadow hshadow => ?_⟩, fun sent => hmatches.writes_eq hfits hanswers⟩
  cases hshadow
  exact ⟨hfits.answers hanswers, hmatches⟩

theorem keepsRegisters_new (board : Board) : KeepsRegisters { board } board [] where
  board_eq := rfl
  shadow shadow hshadow := by cases hshadow

theorem KeepsRegisters.refused (h : ctl.KeepsRegisters board past) (req : Request)
    (error : MapperError) : ctl.KeepsRegisters board (past ++ [⟨req, .error error⟩]) := by
  refine ⟨h.board_eq, fun shadow hshadow => ?_⟩
  rw [KeptRegisters.follow_append]
  exact h.shadow shadow hshadow

theorem KeepsRegisters.restoreSelect (h : ctl.KeepsRegisters board past) (saved : UInt8) :
    (ctl.restoreSelect saved).1.KeepsRegisters board past where
  board_eq := (ctl.board_restoreSelect saved).trans h.board_eq
  shadow := by
    rw [ctl.shadow_restoreSelect]
    exact h.shadow

end Controller

namespace Session

variable {β : Type} [Bus β] {board : Board} {past : History}

theorem keepsRegisters_request {session : Session β}
    (h : session.controller.KeepsRegisters board past) (req : Request) :
    (req.perform session).2.controller.KeepsRegisters board (past ++ (req.perform session).1) := by
  cases hperform : session.controller.perform req with
  | ok result =>
    rw [Request.perform, request, hperform]
    exact (h.perform hperform).1
  | error error =>
    rw [Request.perform, request, hperform]
    exact h.refused req error

theorem keepsRegisters_run (board : Board) (bus : β) (script : Script Request) :
    let ran := script.run Request.perform (start board bus)
    ran.2.controller.KeepsRegisters board ran.1 :=
  Script.run_preserves (fun past (now : Session β) => now.controller.KeepsRegisters board past)
    (fun req _ _ _ hnow => keepsRegisters_request hnow req)
    (fun _ _ _ _ _ hafter => hafter.restoreSelect _) script.forall_true [] (start board bus)
    (Controller.keepsRegisters_new board)

/-- After any requests, accepted or refused, with handlers in between and on any bus: the bytes
that the controller makes from its shadow are those that registers changed in place hold, and the
next accepted request sends such a register as its own change leaves it. -/
theorem sends_kept_registers (board : Board) (bus : β) (script : Script Request) :
    let ran := script.run Request.perform (start board bus)
    (∀ shadow, ran.2.controller.shadow = some shadow →
      (KeptRegisters.follow board ran.1).Matches board shadow) ∧
      ∀ req next writes, ran.2.controller.perform req = .ok (next, writes) →
        let kept := (KeptRegisters.follow board ran.1).update board req
        ∀ sent, kept.writes? board req = some sent → writes = sent := by
  intro ran
  have hkeeps : ran.2.controller.KeepsRegisters board ran.1 := keepsRegisters_run board bus script
  refine ⟨fun shadow hshadow => (hkeeps.shadow shadow hshadow).2, ?_⟩
  intro req next writes hperform kept sent hsent
  refine (hkeeps.perform hperform).2 sent ?_
  rw [KeptRegisters.follow_append]
  exact hsent

end Session

end NesCartridge
