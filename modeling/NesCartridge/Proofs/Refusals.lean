/-
  NesCartridge.Proofs.Refusals

  When a request is refused, why, and at what cost. `Board.Refuses` lists the reasons next to
  `Board.Answers`, each with the error that it gives; there are no others, and a refused request
  leaves controller and bus as they were (`requests_refused_exactly`). What is accepted in turn is
  carried out: a request that a register stands for makes writes (`Board.writes_ne_nil`).
-/
import NesCartridge.Proofs.OnBoard

namespace NesCartridge

/-! ## Reasons -/

/-- Why a board that is up refuses a request. -/
inductive Board.Refuses (board : Board) : Request → MapperError → Prop
  | noPrgWindow {number bank : Nat} (hcount : board.descriptor.prgWindows.length ≤ number) :
      Refuses board (.selectPrg number bank)
        (.invalidWindow number board.descriptor.prgWindows.length)
  | prgBank {number bank : Nat} {window : Window}
      (hwindow : board.descriptor.prgWindows[number]? = some window)
      (hbank : window.maxBank < bank) :
      Refuses board (.selectPrg number bank) (.bankOutOfRange bank window.maxBank)
  | noChrWindow {number bank : Nat} (hcount : board.descriptor.chrWindows.length ≤ number) :
      Refuses board (.selectChr number bank)
        (.invalidWindow number board.descriptor.chrWindows.length)
  | chrBank {number bank : Nat} {window : Window}
      (hwindow : board.descriptor.chrWindows[number]? = some window)
      (hbank : window.maxBank < bank) :
      Refuses board (.selectChr number bank) (.bankOutOfRange bank window.maxBank)
  | mode {mode : Mirroring} (hmode : board.descriptor.supportsMirroring mode = false) :
      Refuses board (.setMirroring mode) (.unsupportedMode mode)
  | noWram {mode : WramMode} (hwram : board.descriptor.hasWram = false) :
      Refuses board (.setWram mode) (.notSupported .wram)
  /-- A work RAM without a gate cannot be switched off. -/
  | noGate (hfixed : board.descriptor.wram = .fixed) :
      Refuses board (.setWram .disabled) (.notSupported .wram)
  /-- Only MMC3 can protect its work RAM. -/
  | noProtection (hwram : board.descriptor.hasWram = true)
      (hother : board.descriptor.wram ≠ .mmc3) :
      Refuses board (.setWram .readOnly) (.notSupported .wramProtect)
  | noCounterToArm {period : Nat} {enabled : Bool}
      (hirq : board.descriptor.supportsIrq = false) :
      Refuses board (.configureIrq period enabled) (.notSupported .irq)
  | scanlines {period : Nat} {enabled : Bool} (hirq : board.descriptor.irq = .scanline)
      (hperiod : period = 0 ∨ 256 < period) :
      Refuses board (.configureIrq period enabled) (.invalidIrqPeriod period)
  | cycles {period : Nat} {enabled : Bool} (hirq : board.descriptor.irq = .cpuCycle)
      (hperiod : period = 0 ∨ 65536 < period) :
      Refuses board (.configureIrq period enabled) (.invalidIrqPeriod period)
  | noCounterToAcknowledge (hirq : board.descriptor.supportsIrq = false) :
      Refuses board .acknowledgeIrq (.notSupported .irq)

namespace Controller

/-- Why a controller refuses a request. Before the bring-up no other reason counts. -/
inductive Refuses (ctl : Controller) (req : Request) : MapperError → Prop
  | notReady (hready : ctl.isReady = false) (hreq : req ≠ .bringUp) : Refuses ctl req .notReady
  | board {err : MapperError} (hready : ctl.isReady = true) (hboard : ctl.board.Refuses req err) :
      Refuses ctl req err

/-- Why a controller does not tell the bank of one of its windows. -/
inductive HidesBank (ctl : Controller) (windows : List Window) (number : Nat) :
    MapperError → Prop
  | notReady (hready : ctl.isReady = false) : HidesBank ctl windows number .notReady
  | noWindow (hready : ctl.isReady = true) (hcount : windows.length ≤ number) :
      HidesBank ctl windows number (.invalidWindow number windows.length)

end Controller

/-! ## What is checked -/

theorem Descriptor.window_eq_error_iff {windows : List Window} {number : Nat}
    {err : MapperError} :
    Descriptor.window windows number = .error err ↔
      windows.length ≤ number ∧ err = .invalidWindow number windows.length := by
  rw [Descriptor.window]
  cases hfind : windows[number]? with
  | none =>
    have hcount := List.getElem?_eq_none_iff.mp hfind
    constructor
    · rintro ⟨⟩
      exact ⟨hcount, rfl⟩
    · rintro ⟨-, rfl⟩
      rfl
  | some window =>
    have hlt := (List.getElem?_eq_some_iff.mp hfind).1
    exact ⟨nofun, fun h => absurd h.1 (Nat.not_le.mpr hlt)⟩

theorem Descriptor.window_eq_ok_iff {windows : List Window} {number : Nat} {found : Window} :
    Descriptor.window windows number = .ok found ↔ windows[number]? = some found := by
  rw [Descriptor.window]
  cases windows[number]? with
  | none => exact ⟨fun h => (by cases h), fun h => by cases h⟩
  | some window => rw [Except.ok.injEq, Option.some.injEq]

/-- A bank selection is refused for its window, and only then for its bank. -/
theorem checkedBank_eq_error_iff {α : Type} {windows : List Window} {number bank : Nat}
    {result : α} {err : MapperError} :
    (do (← Descriptor.window windows number).checkBank bank; return result) = .error err ↔
      windows.length ≤ number ∧ err = .invalidWindow number windows.length ∨
        ∃ window, windows[number]? = some window ∧ window.maxBank < bank ∧
          err = .bankOutOfRange bank window.maxBank := by
  cases hfind : Descriptor.window windows number with
  | error reason =>
    obtain ⟨hcount, rfl⟩ := Descriptor.window_eq_error_iff.mp hfind
    simp [bind, Except.bind, hcount, eq_comm]
  | ok window =>
    have hsome := Descriptor.window_eq_ok_iff.mp hfind
    have hlt := (List.getElem?_eq_some_iff.mp hsome).1
    by_cases hbank : window.maxBank < bank
    · simp [bind, Except.bind, Window.checkBank, hbank, hsome, Nat.not_le.mpr hlt, eq_comm]
    · simp [bind, Except.bind, Window.checkBank, hbank, hsome, Nat.not_le.mpr hlt, pure,
        Except.pure]

theorem WramControl.missing?_eq_some_iff {control : WramControl} {mode : WramMode}
    {feature : Feature} :
    control.missing? mode = some feature ↔
      feature = .wram ∧ (control = .none ∨ control = .fixed ∧ mode = .disabled) ∨
        feature = .wramProtect ∧ control ≠ .none ∧ control ≠ .mmc3 ∧ mode = .readOnly := by
  cases control <;> cases mode <;> cases feature <;> decide

/-! ## The reasons are all there are -/

/-- The refused requests are those listed, with their errors. -/
theorem Board.respond_eq_error_iff {board : Board} {shadow : Shadow} {req : Request}
    {err : MapperError} : board.respond shadow req = .error err ↔ board.Refuses req err := by
  constructor
  · intro h
    cases req with
    | bringUp => cases h
    | selectPrg number bank =>
      rcases checkedBank_eq_error_iff.mp h with ⟨hcount, rfl⟩ | ⟨window, hwindow, hbank, rfl⟩
      · exact .noPrgWindow hcount
      · exact .prgBank hwindow hbank
    | selectChr number bank =>
      rcases checkedBank_eq_error_iff.mp h with ⟨hcount, rfl⟩ | ⟨window, hwindow, hbank, rfl⟩
      · exact .noChrWindow hcount
      · exact .chrBank hwindow hbank
    | setMirroring mode =>
      rw [respond_setMirroring] at h
      split at h
      next => cases h
      next hmode =>
        cases h
        exact .mode (Bool.eq_false_iff.mpr hmode)
    | setWram mode =>
      rw [respond] at h
      split at h
      next feature hmissing =>
        cases h
        rcases WramControl.missing?_eq_some_iff.mp hmissing with
          ⟨rfl, hnone | ⟨hfixed, rfl⟩⟩ | ⟨rfl, hsome, hother, rfl⟩
        · exact .noWram (Descriptor.hasWram_eq_false_iff.mpr hnone)
        · exact .noGate hfixed
        · exact .noProtection (Descriptor.hasWram_eq_true_iff.mpr hsome) hother
      next => cases h
    | configureIrq period enabled =>
      rw [respond_configureIrq] at h
      split at h
      next hirq =>
        cases h
        exact .noCounterToArm ((Bool.not_eq_true' _).mp hirq)
      next hirq =>
        split at h
        next hperiod =>
          cases h
          cases hkind : board.descriptor.irq with
          | none =>
            rw [Descriptor.supportsIrq_eq_false_iff.mpr hkind] at hirq
            exact absurd rfl hirq
          | scanline =>
            rw [hkind] at hperiod
            exact .scanlines hkind hperiod
          | cpuCycle =>
            rw [hkind] at hperiod
            exact .cycles hkind hperiod
        next => cases h
    | acknowledgeIrq =>
      rw [respond_acknowledgeIrq] at h
      split at h
      next => cases h
      next hirq =>
        cases h
        exact .noCounterToAcknowledge (Bool.eq_false_iff.mpr hirq)
  · intro h
    cases h with
    | noPrgWindow hcount => exact checkedBank_eq_error_iff.mpr (Or.inl ⟨hcount, rfl⟩)
    | prgBank hwindow hbank =>
      exact checkedBank_eq_error_iff.mpr (Or.inr ⟨_, hwindow, hbank, rfl⟩)
    | noChrWindow hcount => exact checkedBank_eq_error_iff.mpr (Or.inl ⟨hcount, rfl⟩)
    | chrBank hwindow hbank =>
      exact checkedBank_eq_error_iff.mpr (Or.inr ⟨_, hwindow, hbank, rfl⟩)
    | mode hmode => rw [respond_setMirroring, hmode, if_neg Bool.false_ne_true]
    | noWram hwram =>
      have hnone := Descriptor.hasWram_eq_false_iff.mp hwram
      rw [respond, WramControl.missing?_eq_some_iff.mpr (Or.inl ⟨rfl, Or.inl hnone⟩)]
    | noGate hfixed =>
      rw [respond, WramControl.missing?_eq_some_iff.mpr (Or.inl ⟨rfl, Or.inr ⟨hfixed, rfl⟩⟩)]
    | noProtection hwram hother =>
      have hsome := Descriptor.hasWram_eq_true_iff.mp hwram
      rw [respond, WramControl.missing?_eq_some_iff.mpr (Or.inr ⟨rfl, hsome, hother, rfl⟩)]
    | noCounterToArm hirq => rw [respond_configureIrq, hirq, Bool.not_false, if_pos rfl]
    | scanlines hirq hperiod | cycles hirq hperiod =>
      rw [respond_configureIrq, Descriptor.supportsIrq, hirq, if_neg (by decide)]
      exact if_pos hperiod
    | noCounterToAcknowledge hirq =>
      rw [respond_acknowledgeIrq, hirq, if_neg Bool.false_ne_true]

namespace Controller

theorem perform_eq_error_iff {ctl : Controller} {req : Request} {err : MapperError} :
    ctl.perform req = .error err ↔ ctl.Refuses req err := by
  cases hshadow : ctl.shadow with
  | some shadow =>
    have hready : ctl.isReady = true := by rw [isReady, hshadow]; rfl
    have hperform : ctl.perform req = .error err ↔ ctl.board.respond shadow req = .error err := by
      unfold perform
      rw [hshadow]
      dsimp only
      cases ctl.board.respond shadow req with
      | error reason => exact ⟨fun h => by cases h; rfl, fun h => by cases h; rfl⟩
      | ok result => exact ⟨fun h => (by cases h), fun h => by cases h⟩
    rw [hperform, Board.respond_eq_error_iff]
    constructor
    · exact .board hready
    · rintro (⟨hnot, -⟩ | ⟨-, hboard⟩)
      · rw [hready] at hnot
        cases hnot
      · exact hboard
  | none =>
    have hready : ctl.isReady = false := by rw [isReady, hshadow]; rfl
    constructor
    · intro h
      unfold perform at h
      rw [hshadow] at h
      cases req with
      | bringUp => cases h
      | _ =>
        cases h
        exact .notReady hready fun h => by cases h
    · rintro (⟨-, hreq⟩ | ⟨hup, -⟩)
      · unfold perform
        rw [hshadow]
        cases req with
        | bringUp => exact absurd rfl hreq
        | _ => rfl
      · rw [hready] at hup
        cases hup

variable {ctl : Controller} {number : Nat} {err : MapperError}

/-- Both look-ups of a bank go the same way over their windows. -/
theorem lookup_eq_error_iff {windows : List Window} (bank : Shadow → Nat) :
    (do
      let shadow ← ctl.ready
      let _ ← Descriptor.window windows number
      return bank shadow) = .error err ↔ ctl.HidesBank windows number err := by
  cases hshadow : ctl.shadow with
  | none =>
    have hnot : ctl.isReady = false := by rw [isReady, hshadow]; rfl
    rw [ready, hshadow]
    constructor
    · intro h
      cases h
      exact .notReady hnot
    · rintro (_ | ⟨hup, -⟩)
      · rfl
      · rw [hnot] at hup
        cases hup
  | some shadow =>
    have hup : ctl.isReady = true := by rw [isReady, hshadow]; rfl
    have hcheck : (do
        let shadow ← ctl.ready
        let _ ← Descriptor.window windows number
        return bank shadow) = .error err ↔ Descriptor.window windows number = .error err := by
      rw [ready, hshadow]
      cases Descriptor.window windows number with
      | error reason => exact ⟨fun h => by cases h; rfl, fun h => by cases h; rfl⟩
      | ok window => exact ⟨fun h => (by cases h), fun h => by cases h⟩
    rw [hcheck, Descriptor.window_eq_error_iff]
    constructor
    · rintro ⟨hcount, rfl⟩
      exact .noWindow hup hcount
    · rintro (hnot | ⟨-, hcount⟩)
      · rw [hup] at hnot
        cases hnot
      · exact ⟨hcount, rfl⟩

end Controller

/-! ## What is accepted is carried out -/

namespace Board

/-- The board has a register to write for the request: all but bringing up a board without registers
and naming the mode of a work RAM without a gate. -/
def HasRegisterFor (board : Board) : Request → Prop
  | .bringUp => board ≠ .nrom
  | .setWram _ => board.descriptor.wram ≠ .fixed
  | _ => True

/-- What the registry announces and what the protocol knows to write are one and the same. -/
theorem writes_ne_nil {board : Board} {shadow after : Shadow} {req : Request}
    {writes : List RegisterWrite} (h : board.Answers shadow req after writes)
    (hreq : board.HasRegisterFor req) : writes ≠ [] := by
  cases h with
  | bringUp =>
    cases board with
    | nrom => exact absurd rfl hreq
    | _ => exact List.cons_ne_nil _ _
  | selectPrg hwindow =>
    cases board with
    | nrom | cnRom => cases hwindow
    | _ => exact List.cons_ne_nil _ _
  | selectChr hwindow =>
    cases board with
    | nrom | uxRom | axRom | bnRom => cases hwindow
    | _ => exact List.cons_ne_nil _ _
  | @setMirroring mode hmode =>
    have hchoice := Shadow.hasChoice_of_supports hmode
    cases board with
    | nrom | uxRom | cnRom | colorDreams | bnRom | gnRom => cases hchoice
    | _ => exact List.cons_ne_nil _ _
  | setWram hmode =>
    have hwram := Shadow.hasWram_of_missing? hmode
    cases board with
    | mmc4 => exact absurd rfl hreq
    | mmc1 | mmc3 | fme7 => exact List.cons_ne_nil _ _
    | _ => cases hwram
  | configureIrq hirq | acknowledgeIrq hirq =>
    cases board with
    | mmc3 | fme7 => exact List.cons_ne_nil _ _
    | _ => cases hirq

end Board

/-! ## Sessions -/

namespace Session

variable {β : Type} [Bus β]

/-- A refused request makes no write and leaves the controller as it was. -/
theorem request_of_refuses {session : Session β} {req : Request} {err : MapperError}
    (h : session.controller.Refuses req err) : session.request req = (.error err, session) := by
  rw [request, Controller.perform_eq_error_iff.mpr h]

theorem request_eq_error_iff {session : Session β} {req : Request} {err : MapperError} :
    (session.request req).1 = .error err ↔ session.controller.Refuses req err := by
  constructor
  · intro h
    cases hperform : session.controller.perform req with
    | error reason =>
      rw [request, hperform] at h
      cases h
      exact Controller.perform_eq_error_iff.mp hperform
    | ok result =>
      rw [request, hperform] at h
      cases h
  · intro h
    rw [request_of_refuses h]

/-- An accepted request makes its writes one after another, and they are not none. -/
theorem writes_of_request {session : Session β} {req : Request}
    (h : (session.request req).1 = .ok ()) (hreq : session.controller.board.HasRegisterFor req) :
    ∃ writes, writes ≠ [] ∧ (session.request req).2.bus = Bus.writeAll session.bus writes := by
  cases hperform : session.controller.perform req with
  | error reason =>
    rw [request, hperform] at h
    cases h
  | ok result =>
    obtain ⟨current, after, hans, -, -⟩ := Controller.perform_eq_ok hperform
    refine ⟨result.2, Board.writes_ne_nil hans hreq, ?_⟩
    rw [request, hperform]

end Session

/-- A controller is ready once one of the requests in its history was the bring-up. -/
theorem Script.isReady_run {β : Type} [Bus β] (start : Session β) (script : Script Request) :
    (script.run Request.perform start).2.controller.isReady = true ↔
      start.controller.isReady = true ∨ .bringUp ∈ script.actions := by
  refine Script.run_preserves_trace
    (fun made _ now => now.controller.isReady = true ↔
      start.controller.isReady = true ∨ .bringUp ∈ made)
    (fun req _ made past now hnow => ?_) (fun made made' past past' before after _ hafter => ?_)
    script.forall_true [] [] start ?_
  · show (now.request req).2.controller.isReady = true ↔ _
    rw [Session.isReady_request, Bool.or_eq_true, decide_eq_true_eq, hnow, List.mem_append,
      List.mem_singleton, or_assoc, eq_comm (a := req)]
  · rw [Session.isReady_restore]
    exact hafter
  · exact (or_iff_left List.not_mem_nil).symm

/-- On any bus and in any state of any board's controller: a request fails exactly for one of the
listed reasons, with the error of that reason, and has then changed nothing and written nothing. A
request that does not fail is carried out by writes. The bank of a window is told as soon as the
board is up, unless there is no such window. And only a controller that was never brought up is not
ready. -/
theorem requests_refused_exactly {β : Type} [Bus β] (session : Session β) :
    (∀ req err, (session.request req).1 = .error err ↔ session.controller.Refuses req err) ∧
      (∀ req err, (session.request req).1 = .error err → (session.request req).2 = session) ∧
      (∀ req, (session.request req).1 = .ok () → session.controller.board.HasRegisterFor req →
        ∃ writes, writes ≠ [] ∧
          (session.request req).2.bus = Bus.writeAll session.bus writes) ∧
      (∀ number err, session.controller.prgBank number = .error err ↔
        session.controller.HidesBank session.controller.board.descriptor.prgWindows number err) ∧
      (∀ number err, session.controller.chrBank number = .error err ↔
        session.controller.HidesBank session.controller.board.descriptor.chrWindows number err) ∧
      ∀ (board : Board) (bus : β) (script : Script Request),
        (script.run Request.perform (.start board bus)).2.controller.isReady = true ↔
          .bringUp ∈ script.actions := by
  refine ⟨fun _ _ => Session.request_eq_error_iff, fun req err h => ?_,
    fun _ => Session.writes_of_request,
    fun number _ => Controller.lookup_eq_error_iff fun shadow => shadow.prgBank number,
    fun number _ => Controller.lookup_eq_error_iff fun shadow => shadow.chrBank number,
    fun board bus script => ?_⟩
  · rw [Session.request_of_refuses (Session.request_eq_error_iff.mp h)]
  · rw [Script.isReady_run]
    exact or_iff_right Bool.false_ne_true

end NesCartridge
