/-
  NesCartridge.Proofs.Choices

  What the controller notes is what was chosen last. Each thing that can be chosen has a place in
  the shadow, requests that choose it, and the choice that bringing the board up makes (`Choice`).
  Main statement: from the first bring-up on every such place holds the last accepted choice
  (`Session.follows_bringUp_run`). Nothing else enters into it: accesses to the console, raw
  register writes and the ends of handlers leave the shadow alone.
-/
import NesCartridge.Proofs.OnBoard

namespace NesCartridge

/-- A part of the shadow that some requests choose, that bringing the board up resets, and that
every other request leaves alone. -/
structure Choice (board : Board) (α : Type) where
  noted : Shadow → α
  pick : Request → Option α
  initial : α
  noted_atBringUp : noted (.atBringUp board) = initial
  noted_answers : ∀ {current after : Shadow} {req : Request} {writes : List RegisterWrite},
    current.Fits board → board.Answers current req after writes → req ≠ .bringUp →
      noted after = (pick req).getD (noted current)

/-! ## What can be chosen -/

namespace Choice

/-- A bank that is chosen for one window is chosen for no other. -/
theorem bank_of_window (number window bank current : Nat) :
    (if window = number then bank else current) =
      (if number = window then some bank else none).getD current := by
  by_cases hnumber : number = window
  · rw [if_pos hnumber.symm, if_pos hnumber]
    rfl
  · rw [if_neg (Ne.symm hnumber), if_neg hnumber]
    rfl

def prgBank (board : Board) (window : Nat) : Choice board Nat where
  noted shadow := shadow.prgBank window
  pick
    | .selectPrg number bank => if number = window then some bank else none
    | _ => none
  initial := 0
  noted_atBringUp := Shadow.prgBank_atBringUp board window
  noted_answers hfits hans hother := by
    cases hans with
    | bringUp => exact absurd rfl hother
    | @selectPrg number bank _ hwindow =>
      rw [hfits.prgBank_setPrg hwindow]
      exact bank_of_window ..
    | selectChr | setMirroring | setWram | configureIrq | acknowledgeIrq => rfl

def chrBank (board : Board) (window : Nat) : Choice board Nat where
  noted shadow := shadow.chrBank window
  pick
    | .selectChr number bank => if number = window then some bank else none
    | _ => none
  initial := 0
  noted_atBringUp := Shadow.chrBank_atBringUp board window
  noted_answers hfits hans hother := by
    cases hans with
    | bringUp => exact absurd rfl hother
    | @selectChr number bank _ hwindow =>
      rw [hfits.chrBank_setChr hwindow]
      exact bank_of_window ..
    | selectPrg | setMirroring | setWram | configureIrq | acknowledgeIrq => rfl

/-- The mirroring in force, which counts as vertical on boards that cannot switch it. -/
def mirroring (board : Board) : Choice board Mirroring where
  noted := Shadow.mode
  pick
    | .setMirroring mode => some mode
    | _ => none
  initial := if board.descriptor.mirroring = .oneScreen then .oneScreenLower else .vertical
  noted_atBringUp := by cases board <;> rfl
  noted_answers _ hans hother := by
    cases hans with
    | bringUp => exact absurd rfl hother
    | setMirroring | selectPrg | selectChr | setWram | configureIrq | acknowledgeIrq => rfl

/-- The access to the work RAM, which counts as open on boards that have none. -/
def wramMode (board : Board) : Choice board WramMode where
  noted shadow := shadow.wram.getD .readWrite
  pick
    | .setWram mode => some mode
    | _ => none
  initial := .readWrite
  noted_atBringUp := by cases board <;> rfl
  noted_answers _ hans hother := by
    cases hans with
    | bringUp => exact absurd rfl hother
    | setWram | selectPrg | selectChr | setMirroring | configureIrq | acknowledgeIrq => rfl

end Choice

/-! ## One request -/

namespace History

/-- Requests other than the bring-up make the choice that they name, if they name one. -/
theorem choose_ok {α : Type} (pick : Request → Option α) (initial current : α) {req : Request}
    (hother : req ≠ .bringUp) :
    choose pick initial current ⟨req, .ok ()⟩ = (pick req).getD current := by
  cases req with
  | bringUp => exact absurd rfl hother
  | selectPrg | selectChr | setMirroring | setWram | configureIrq | acknowledgeIrq => rfl

end History

/-- An accepted request moves the note as it moves the choice. -/
theorem Choice.noted_eq {board : Board} {α : Type} (choice : Choice board α)
    {current after : Shadow} {req : Request} {writes : List RegisterWrite} {past : History}
    (hans : board.Answers current req after writes)
    (hknown : req = .bringUp ∨
      current.Fits board ∧ choice.noted current = past.last choice.pick choice.initial) :
    choice.noted after = History.last (past ++ [⟨req, .ok ()⟩]) choice.pick choice.initial := by
  rw [History.last_append]
  by_cases hbringUp : req = .bringUp
  · subst hbringUp
    cases hans
    exact choice.noted_atBringUp
  · obtain ⟨hfits, hnoted⟩ := hknown.resolve_left hbringUp
    rw [History.choose_ok _ _ _ hbringUp, ← hnoted]
    exact choice.noted_answers hfits hans hbringUp

/-- The board is up, and its shadow is what the history says. -/
structure Controller.Follows (ctl : Controller) (board : Board) (past : History) : Prop where
  board_eq : ctl.board = board
  shadow : ∃ shadow, ctl.shadow = some shadow ∧ shadow.Fits board ∧
    ∀ (α : Type) (choice : Choice board α),
      choice.noted shadow = past.last choice.pick choice.initial

namespace Controller

variable {ctl next : Controller} {board : Board} {past : History} {req : Request}
  {writes : List RegisterWrite}

/-- The bring-up makes the shadow known, whatever the history, and every accepted request keeps
it known. -/
theorem follows_perform (past : History) (hboard : ctl.board = board)
    (hperform : ctl.perform req = .ok (next, writes))
    (hknown : req = .bringUp ∨ ctl.Follows board past) :
    next.Follows board (past ++ [⟨req, .ok ()⟩]) := by
  obtain ⟨current, after, hans, hcurrent, rfl⟩ := perform_eq_ok hperform
  rw [hboard] at hans
  have hcurrent : req = .bringUp ∨ current.Fits board ∧ ∀ (α : Type) (choice : Choice board α),
      choice.noted current = past.last choice.pick choice.initial := by
    rcases hcurrent with hshadow | hbringUp
    · refine hknown.imp_right fun hfollows => ?_
      obtain ⟨shadow, hsame, hfits, hnoted⟩ := hfollows.shadow
      cases hshadow.symm.trans hsame
      exact ⟨hfits, hnoted⟩
    · exact Or.inl hbringUp
  have hfits : after.Fits board := by
    rcases hcurrent with rfl | ⟨hfits, -⟩
    · cases hans
      exact Shadow.fits_atBringUp board
    · exact hfits.answers hans
  exact ⟨hboard, after, rfl, hfits, fun α choice =>
    choice.noted_eq hans (hcurrent.imp_right fun hknown => ⟨hknown.1, hknown.2 α choice⟩)⟩

/-- A refused request chooses nothing. -/
theorem Follows.refused (h : ctl.Follows board past) (req : Request) (error : MapperError) :
    ctl.Follows board (past ++ [⟨req, .error error⟩]) := by
  obtain ⟨shadow, hshadow, hfits, hnoted⟩ := h.shadow
  refine ⟨h.board_eq, shadow, hshadow, hfits, fun α choice => ?_⟩
  rw [History.last_append]
  exact hnoted α choice

/-- What only some boards can choose is noted on those, and there it is the last choice. -/
theorem Follows.bind_eq (h : ctl.Follows board past) {α : Type} (choice : Choice board α)
    {field : Shadow → Option α} {fallback : α} {present : Bool}
    (hnoted : ∀ shadow, choice.noted shadow = (field shadow).getD fallback)
    (hpresent : ∀ shadow : Shadow, shadow.Fits board → (field shadow).isSome = present) :
    ctl.shadow.bind field =
      if present then some (past.last choice.pick choice.initial) else none := by
  obtain ⟨shadow, hshadow, hfits, hlast⟩ := h.shadow
  rw [hshadow, Option.bind_some, ← hpresent shadow hfits, ← hlast α choice, hnoted]
  cases field shadow with
  | none => rfl
  | some noted => rfl

theorem Follows.restoreSelect (h : ctl.Follows board past) (saved : UInt8) :
    (ctl.restoreSelect saved).1.Follows board past where
  board_eq := (ctl.board_restoreSelect saved).trans h.board_eq
  shadow := by
    rw [ctl.shadow_restoreSelect]
    exact h.shadow

end Controller

/-! ## Runs -/

namespace Session

variable {board : Board} {past : History}

theorem follows_request {β : Type} [Bus β] {session : Session β}
    (h : session.controller.Follows board past) (req : Request) :
    (req.perform session).2.controller.Follows board (past ++ (req.perform session).1) := by
  cases hperform : session.controller.perform req with
  | ok result =>
    rw [Request.perform, request, hperform]
    exact Controller.follows_perform past h.board_eq hperform (Or.inr h)
  | error error =>
    rw [Request.perform, request, hperform]
    exact h.refused req error

theorem follows_bringUp {β : Type} [Bus β] {session : Session β}
    (hboard : session.controller.board = board) :
    (Request.bringUp.perform session).2.controller.Follows board
      (Request.bringUp.perform session).1 := by
  have haccepted := session.request_bringUp
  cases hperform : session.controller.perform .bringUp with
  | ok result =>
    rw [Request.perform, request, hperform]
    exact Controller.follows_perform [] hboard hperform (Or.inl rfl)
  | error error =>
    rw [request, hperform] at haccepted
    cases haccepted

theorem follows_action {session : Session Console} (h : session.controller.Follows board past)
    (action : Action) :
    (action.perform session).2.controller.Follows board
      (past ++ (action.perform session).1) := by
  cases action with
  | request req => exact follows_request h req
  -- Accesses leave the controller alone and add nothing to the history.
  | readCpu | writeCpu | readPpu | writePpu | tick =>
    have hnone : past ++ [] = past := List.append_nil past
    exact hnone.symm ▸ h

theorem follows_run {session : Session Console} (h : session.controller.Follows board past)
    (script : Script Action) :
    (script.run Action.perform session).2.controller.Follows board
      (past ++ (script.run Action.perform session).1) :=
  Script.run_preserves (fun past (now : Session Console) => now.controller.Follows board past)
    (fun action _ _ _ hnow => follows_action hnow action)
    (fun _ _ _ _ _ hafter => hafter.restoreSelect _) script.forall_true past session h

/-- From a bring-up on, the controller notes what was chosen last since it was brought up last. -/
theorem follows_bringUp_run {session : Session Console}
    (hboard : session.controller.board = board) (script : Script Action) :
    let ran := (Script.act (.request .bringUp) script).run Action.perform session
    ran.2.controller.Follows board ran.1 :=
  follows_run (follows_bringUp hboard) script

end Session

end NesCartridge
