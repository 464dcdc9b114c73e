/-
  NesCartridge.Proofs.Course

  What a controller makes of a script, told without a bus: what becomes of each request, the writes
  in bursts of one request or one handler's end, and the controller in the end. A bus takes these
  writes and has no say in them (`Script.run_eq_course`). Main statement: on every board they go to
  the registers that the registry lists, or on boards with bus conflicts to the identity table, and
  so past every memory (`writes_stay_on_registers`).
-/
import NesCartridge.Proofs.OnBoard

namespace NesCartridge

/-! ## Courses -/

/-- What is written at a stretch: for a request, or at the end of a handler. -/
structure Burst where
  /-- `none` at the end of a handler. -/
  request? : Option Request
  writes : List RegisterWrite

/-- All that a script comes to, but for the bus. -/
structure Course where
  history : History
  bursts : List Burst
  next : Controller

/-- The writes of a course, oldest first. -/
def Course.writes (course : Course) : List RegisterWrite :=
  course.bursts.flatMap (·.writes)

/-- What becomes of a request, the controller afterwards and the writes. A refused request makes
none. -/
def Controller.attempt (ctl : Controller) (req : Request) :
    Except MapperError Unit × Controller × List RegisterWrite :=
  match ctl.perform req with
  | .ok (next, writes) => (.ok (), next, writes)
  | .error err => (.error err, ctl, [])

/-- The course of a script from a controller. -/
def Script.course : Script Request → Controller → Course
  | done, ctl => { history := [], bursts := [], next := ctl }
  | act req rest, ctl =>
    let (outcome, next, writes) := ctl.attempt req
    let later := rest.course next
    { later with
      history := ⟨req, outcome⟩ :: later.history
      bursts := ⟨some req, writes⟩ :: later.bursts }
  | handler body rest, ctl =>
    let inside := body.course ctl
    let (back, writes) := inside.next.restoreSelect ctl.select
    let later := rest.course back
    { later with
      history := inside.history ++ later.history
      bursts := inside.bursts ++ ⟨none, writes⟩ :: later.bursts }

theorem Request.perform_eq_attempt {β : Type} [Bus β] (req : Request) (ctl : Controller)
    (bus : β) :
    req.perform ⟨ctl, bus⟩ =
      ([⟨req, (ctl.attempt req).1⟩],
        ⟨(ctl.attempt req).2.1, Bus.writeAll bus (ctl.attempt req).2.2⟩) := by
  rw [perform, Session.request, Controller.attempt]
  cases ctl.perform req with
  | ok result => rfl
  | error err => rfl

/-- The bus takes the writes of the course and changes nothing of it. -/
theorem Script.run_eq_course {β : Type} [Bus β] (script : Script Request) (ctl : Controller)
    (bus : β) :
    script.run Request.perform ⟨ctl, bus⟩ =
      ((script.course ctl).history,
        ⟨(script.course ctl).next, Bus.writeAll bus (script.course ctl).writes⟩) := by
  induction script generalizing ctl bus with
  | done => rfl
  | act req rest ih =>
    rw [run_act, Request.perform_eq_attempt, ih, ← Bus.writeAll_append]
    rfl
  | handler body rest ihbody ihrest =>
    have hrestore : ∀ (next : Controller) (before : β),
        Session.restore ⟨next, before⟩ ctl.select =
          ⟨(next.restoreSelect ctl.select).1,
            Bus.writeAll before (next.restoreSelect ctl.select).2⟩ := fun _ _ => rfl
    rw [run_handler, ihbody]
    dsimp only
    -- The rest goes on from a controller whose note of the select register was put back.
    rw [hrestore, ihrest, ← Bus.writeAll_append, ← Bus.writeAll_append]
    simp only [course, Course.writes, List.flatMap_append, List.flatMap_cons]

/-! ## What holds all along a course -/

theorem Controller.board_attempt (ctl : Controller) (req : Request) :
    (ctl.attempt req).2.1.board = ctl.board := by
  rw [attempt]
  cases hperform : ctl.perform req with
  | error err => rfl
  | ok result =>
    obtain ⟨_, after, -, -, hnext⟩ := perform_eq_ok hperform
    show result.1.board = ctl.board
    rw [hnext]

/-- No request and no handler moves a controller to another board. -/
theorem Script.board_course (script : Script Request) (ctl : Controller) :
    (script.course ctl).next.board = ctl.board := by
  induction script generalizing ctl with
  | done => rfl
  | act req rest ih => exact (ih _).trans (ctl.board_attempt req)
  | handler body rest ihbody ihrest =>
    have hback := (body.course ctl).next.board_restoreSelect ctl.select
    exact (ihrest _).trans (hback.trans (ihbody ctl))

/-- What holds of the writes of an answered request, of none at all and of a select byte given back
holds of every burst. -/
theorem Script.forall_bursts {board : Board} {p : Burst → Prop}
    (hanswered : ∀ {current after : Shadow} {req : Request} {writes : List RegisterWrite},
      board.Answers current req after writes → p ⟨some req, writes⟩)
    (hrefused : ∀ req, req ≠ .bringUp → p ⟨some req, []⟩)
    (hback : ∀ ctl : Controller, ctl.board = board → ∀ saved, p ⟨none, (ctl.restoreSelect saved).2⟩)
    (script : Script Request) {ctl : Controller} (hctl : ctl.board = board) :
    ∀ burst ∈ (script.course ctl).bursts, p burst := by
  induction script generalizing ctl with
  | done => exact fun burst hmem => absurd hmem List.not_mem_nil
  | act req rest ih =>
    have hnow : p ⟨some req, (ctl.attempt req).2.2⟩ := by
      rw [Controller.attempt]
      cases hperform : ctl.perform req with
      | error err =>
        refine hrefused req fun hreq => ?_
        obtain ⟨result, hok⟩ := ctl.exists_perform_bringUp
        rw [← hreq, hperform] at hok
        cases hok
      | ok result =>
        obtain ⟨current, after, hans, -, -⟩ := Controller.perform_eq_ok hperform
        exact hanswered (hctl ▸ hans)
    exact List.forall_mem_cons.mpr ⟨hnow, ih ((ctl.board_attempt req).trans hctl)⟩
  | handler body rest ihbody ihrest =>
    have hinside := (body.board_course ctl).trans hctl
    have hlater := ihrest (((body.course ctl).next.board_restoreSelect ctl.select).trans hinside)
    exact List.forall_mem_append.mpr
      ⟨ihbody hctl, List.forall_mem_cons.mpr ⟨hback _ hinside _, hlater⟩⟩

/-! ## Where the writes go -/

namespace Board

/-- Any byte may go back into a select register. -/
theorem lists_restoreSelect {board : Board} {ctl : Controller} (hctl : ctl.board = board)
    (saved : UInt8) : ∀ w ∈ (ctl.restoreSelect saved).2, board.Lists w := by
  intro w hw
  rw [Controller.restoreSelect, hctl] at hw
  split at hw
  next addr haddr =>
    obtain ⟨hconflicts, hmem⟩ := select_mem_addresses haddr
    cases List.mem_singleton.mp hw
    rwa [Lists, hconflicts, if_neg (by decide)]
  next => cases hw

/-- There is nothing to write on a board without registers. -/
theorem writes_nrom {current after : Shadow} {req : Request} {writes : List RegisterWrite}
    (h : Board.nrom.Answers current req after writes) : writes = [] := by
  cases h <;> rfl

end Board

theorem data_of_mem_serialWrites {addr : UInt16} {value : UInt8} {w : RegisterWrite}
    (hw : w ∈ serialWrites addr value) : w.data = 0 ∨ w.data = 1 := by
  obtain ⟨i, -, rfl⟩ := List.mem_map.mp hw
  rcases Nat.mod_two_eq_zero_or_one (value.toNat >>> i) with hbit | hbit
  · exact Or.inl (congrArg UInt8.ofNat hbit)
  · exact Or.inr (congrArg UInt8.ofNat hbit)

/-- On MMC1 a burst feeds the serial port with bits. A bring-up empties the port first. -/
def Burst.IsSerial (burst : Burst) : Prop :=
  if burst.request? = some .bringUp then
    ∃ bits, burst.writes = ⟨Address.mmc1Control, 0x80⟩ :: bits ∧
      ∀ w ∈ bits, w.data = 0 ∨ w.data = 1
  else ∀ w ∈ burst.writes, w.data = 0 ∨ w.data = 1

theorem Board.isSerial_mmc1 {current after : Shadow} {req : Request}
    {writes : List RegisterWrite} (h : Board.mmc1.Answers current req after writes) :
    Burst.IsSerial ⟨some req, writes⟩ := by
  rw [Burst.IsSerial]
  cases h with
  | bringUp =>
    rw [if_pos rfl]
    refine ⟨_, rfl, fun w hw => ?_⟩
    simp only [List.mem_append] at hw
    rcases hw with ((hw | hw) | hw) | hw <;> exact data_of_mem_serialWrites hw
  | selectPrg | selectChr | setMirroring | setWram =>
    rw [if_neg (fun h => by cases h)]
    exact fun w hw => data_of_mem_serialWrites hw
  | configureIrq hirq => cases hirq
  | acknowledgeIrq hirq => cases hirq

/-- Of all that is in a console only the chip hears of writes outside the memories. -/
theorem Console.exists_writeAll (console : Console) {writes : List RegisterWrite}
    (h : ∀ w ∈ writes, 0x5000 ≤ w.addr.toNat ∧ inWram w.addr = false) :
    ∃ chip, Bus.writeAll console writes = console.withChip chip := by
  induction writes generalizing console with
  | nil => exact ⟨console.chip, console.withChip_chip.symm⟩
  | cons w rest ih =>
    obtain ⟨⟨hlow, hwram⟩, hrest⟩ := List.forall_mem_cons.mp h
    obtain ⟨chip, hchip⟩ := ih (Bus.write console w.addr w.data) hrest
    have hfirst : Bus.write console w.addr w.data = console.withChip _ :=
      console.writeCpu_of_outside (by omega) hwram w.data
    refine ⟨chip, ?_⟩
    rw [Bus.writeAll_cons, hchip, hfirst]
    rfl

/-- Whatever is asked of a controller, in handlers or outside, and whatever comes of it: results
and writes are the same on every bus. Each write goes to a register that the registry lists for
the board, or with bus conflicts to the place of its own value in the identity table, in any case
past RAM and work RAM, and changes nothing in a console but the chip. NROM is never written, and
on MMC1 all writes but the first of each bring-up are bits. -/
theorem writes_stay_on_registers (script : Script Request) (ctl : Controller) :
    let course := script.course ctl
    (∀ {β : Type} [Bus β] (bus : β), script.run Request.perform ⟨ctl, bus⟩ =
        (course.history, ⟨course.next, Bus.writeAll bus course.writes⟩)) ∧
      (∀ w ∈ course.writes,
        (ctl.board.descriptor.busConflicts = false →
          ∃ register ∈ ctl.board.descriptor.registers, register.addr = w.addr) ∧
        (ctl.board.descriptor.busConflicts = true → w.addr.toNat = 0xFF00 + w.data.toNat) ∧
        0x5000 ≤ w.addr.toNat ∧ inWram w.addr = false) ∧
      (∀ console : Console, ∃ chip, Bus.writeAll console course.writes = console.withChip chip) ∧
      (ctl.board = .nrom → course.writes = []) ∧
      (ctl.board = .mmc1 → ∀ burst ∈ course.bursts, burst.IsSerial) := by
  intro course
  have hlists : ∀ w ∈ course.writes, ctl.board.Lists w := by
    have hbursts : ∀ burst ∈ course.bursts, ∀ w ∈ burst.writes, ctl.board.Lists w :=
      script.forall_bursts (fun hans w hw => (Board.emits_of_answers hans hw).lists)
        (fun req _ w hw => absurd hw List.not_mem_nil)
        (fun _ hother saved => Board.lists_restoreSelect hother saved) rfl
    intro w hw
    obtain ⟨burst, hburst, hmem⟩ := List.mem_flatMap.mp hw
    exact hbursts burst hburst w hmem
  refine ⟨fun bus => script.run_eq_course ctl bus,
    fun w hw => ⟨fun hquiet => ?_, (hlists w hw).toNat_addr, (hlists w hw).outside⟩,
    fun console => console.exists_writeAll fun w hw => (hlists w hw).outside, fun hboard => ?_,
    fun hboard => ?_⟩
  · exact List.mem_map.mp ((hlists w hw).mem_addresses hquiet)
  · have hsilent : ∀ burst ∈ course.bursts, burst.writes = [] := by
      refine script.forall_bursts Board.writes_nrom (fun _ _ => rfl) (fun other hother _ => ?_)
        hboard
      rw [Controller.restoreSelect, hother]
      rfl
    exact List.flatMap_eq_nil_iff.mpr hsilent
  · refine script.forall_bursts Board.isSerial_mmc1 (fun req hreq => ?_) (fun other hother _ => ?_)
      hboard
    · rw [Burst.IsSerial, if_neg fun h => hreq (Option.some.inj h)]
      exact fun w hw => absurd hw List.not_mem_nil
    · rw [Burst.IsSerial, if_neg (fun h => by cases h), Controller.restoreSelect, hother]
      exact fun w hw => absurd hw List.not_mem_nil

/-- A bank switch of UxROM meets the ROM's own byte, also before a refused one in a handler. -/
theorem writes_stay_on_registers_uxRom :
    let script : Script Request := .act (.selectPrg 0 1)
      (.act .bringUp (.handler (.act (.selectPrg 0 5) (.act (.selectPrg 0 16) .done)) .done))
    let course := script.course { board := .uxRom }
    course.writes = [⟨0xFF00, 0⟩, ⟨0xFF05, 5⟩] ∧
      ∀ w ∈ course.writes, w.addr.toNat = 0xFF00 + w.data.toNat := by
  intro script course
  obtain ⟨-, hlisted, -⟩ := writes_stay_on_registers script { board := .uxRom }
  exact ⟨rfl, fun w hw => (hlisted w hw).2.1 rfl⟩

end NesCartridge
