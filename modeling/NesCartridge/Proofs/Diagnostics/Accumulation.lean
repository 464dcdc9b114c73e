/-
  NesCartridge.Proofs.Diagnostics.Accumulation

  A report accumulates and never forgets a failure. Every entry only adds to it (`Report.Grows`)
  and leaves no failure outside what was tested but refusals, so every procedure does, wherever it
  stops. A board that has not been brought up is asked and nothing else: every routine starts with
  a request, records that it is refused, and then goes on to the next or stops
  (`Procedure.OnlyAsks`). Main statement: `report_accumulates`.
-/
import NesCartridge.Proofs.Diagnostics.Procedure
import NesCartridge.Proofs.Refusals

namespace NesCartridge

/-! ## Sets of checks -/

namespace CheckSet

/-- Every bit of the one set is in the other. -/
instance : HasSubset CheckSet where
  Subset set other := set.bits ||| other.bits = other.bits

variable {set other third : CheckSet}

theorem subset_refl (set : CheckSet) : set ⊆ set :=
  UInt16.or_self

theorem subset_trans (h : set ⊆ other) (h' : other ⊆ third) : set ⊆ third := by
  have hset : set.bits ||| other.bits = other.bits := h
  have hother : other.bits ||| third.bits = third.bits := h'
  show set.bits ||| third.bits = third.bits
  rw [← hother, ← UInt16.or_assoc, hset]

theorem subset_insert (set : CheckSet) (check : Check) : set ⊆ set.insert check := by
  show set.bits ||| (set.bits ||| check.bit) = set.bits ||| check.bit
  rw [← UInt16.or_assoc, UInt16.or_self]

theorem insert_comm (set : CheckSet) (check check' : Check) :
    (set.insert check).insert check' = (set.insert check').insert check := by
  simp only [insert, UInt16.or_assoc, UInt16.or_comm check.bit]

theorem insert_subset_insert (h : set ⊆ other) (check : Check) :
    set.insert check ⊆ other.insert check := by
  have hsubset : set.bits ||| other.bits = other.bits := h
  show (set.bits ||| check.bit) ||| (other.bits ||| check.bit) = other.bits ||| check.bit
  rw [UInt16.or_assoc, UInt16.or_comm check.bit, UInt16.or_assoc, UInt16.or_self,
    ← UInt16.or_assoc, hsubset]

end CheckSet

/-! ## Reports -/

namespace Report

/-- What a later report has kept of an earlier one: all failures and tests, all notes, in their
places, and the counts. A failure does not come without a note. -/
structure Grows (before after : Report) : Prop where
  failures : before.failures ⊆ after.failures
  tested : before.tested ⊆ after.tested
  notes : ∃ added, after.notes = before.notes ++ added ∧
    (after.failures ≠ before.failures → added ≠ #[])
  prgBanks : before.prgBanks ≤ after.prgBanks
  chrBanks : before.chrBanks ≤ after.chrBanks

/-- Only what was tested has failed, refusals apart. -/
def Covered (report : Report) : Prop :=
  report.failures ⊆ report.tested.insert .control

theorem covered_fresh (board : Board) : ({ board } : Report).Covered :=
  CheckSet.subset_insert {} .control

theorem grows_refl (report : Report) : report.Grows report where
  failures := CheckSet.subset_refl _
  tested := CheckSet.subset_refl _
  notes := ⟨#[], (Array.append_empty).symm, fun h => absurd rfl h⟩
  prgBanks := Nat.le_refl _
  chrBanks := Nat.le_refl _

theorem Grows.trans {first second third : Report} (h : first.Grows second)
    (h' : second.Grows third) : first.Grows third where
  failures := CheckSet.subset_trans h.failures h'.failures
  tested := CheckSet.subset_trans h.tested h'.tested
  notes := by
    obtain ⟨added, hadded, hnoted⟩ := h.notes
    obtain ⟨added', hadded', hnoted'⟩ := h'.notes
    refine ⟨added ++ added', by rw [hadded', hadded, Array.append_assoc], fun hnew hnone => ?_⟩
    -- Without a note in either half neither of them has a new failure.
    obtain ⟨hnone, hnone'⟩ := Array.append_eq_empty_iff.mp hnone
    have hsame : second.failures = first.failures :=
      Decidable.byContradiction fun hne => hnoted hne hnone
    have hsame' : third.failures = second.failures :=
      Decidable.byContradiction fun hne => hnoted' hne hnone'
    exact hnew (hsame'.trans hsame)
  prgBanks := Nat.le_trans h.prgBanks h'.prgBanks
  chrBanks := Nat.le_trans h.chrBanks h'.chrBanks

/-- A note by itself. -/
theorem grows_note (report : Report) (note : Note) : report.Grows (report.note note) where
  failures := CheckSet.subset_refl _
  tested := CheckSet.subset_refl _
  notes := ⟨#[note], Array.push_eq_append, fun h => absurd rfl h⟩
  prgBanks := Nat.le_refl _
  chrBanks := Nat.le_refl _

theorem grows_check (report : Report) (check : Check) (ok : Bool) (note : Note) :
    report.Grows (report.check check ok note) := by
  have htested := CheckSet.subset_insert report.tested check
  cases ok with
  | true => exact { report.grows_refl with tested := htested }
  | false =>
    exact {
      failures := CheckSet.subset_insert report.failures check
      tested := htested
      notes := ⟨#[note], Array.push_eq_append, fun _ h => by cases h⟩
      prgBanks := Nat.le_refl _
      chrBanks := Nat.le_refl _ }

theorem grows_refused (report : Report) (check : Check) (what : String) (error : MapperError) :
    report.Grows (report.refused check what error) where
  failures := CheckSet.subset_trans (CheckSet.subset_insert report.failures check)
    (CheckSet.subset_insert _ .control)
  tested := CheckSet.subset_insert report.tested check
  notes := ⟨#[.refused what error], Array.push_eq_append, fun _ h => by cases h⟩
  prgBanks := Nat.le_refl _
  chrBanks := Nat.le_refl _

theorem Covered.check {report : Report} (h : report.Covered) (check : Check) (ok : Bool)
    (note : Note) : (report.check check ok note).Covered := by
  have hinsert : report.failures.insert check ⊆ (report.tested.insert check).insert .control := by
    rw [CheckSet.insert_comm]
    exact CheckSet.insert_subset_insert h check
  cases ok with
  | true => exact CheckSet.subset_trans (CheckSet.subset_insert _ check) hinsert
  | false => exact hinsert

theorem Covered.refused {report : Report} (h : report.Covered) (check : Check) (what : String)
    (error : MapperError) : (report.refused check what error).Covered := by
  have hinsert := CheckSet.insert_subset_insert (h.check check false (.refused what error)) .control
  rwa [CheckSet.insert_insert] at hinsert

end Report

namespace Entry

theorem grows (report : Report) (entry : Entry) : report.Grows (entry.make report) := by
  cases entry with
  | check of ok note => exact report.grows_check of ok note
  | refused of what error => exact report.grows_refused of what error
  | skipped what error => exact report.grows_note (.skipped what error)
  | prgBankRead => exact { report.grows_refl with prgBanks := Nat.le_succ _ }
  | chrBankRead => exact { report.grows_refl with chrBanks := Nat.le_succ _ }
  | foundPrgSize | triedWram => exact { report.grows_refl with }

theorem covered {report : Report} (h : report.Covered) (entry : Entry) :
    (entry.make report).Covered := by
  cases entry with
  | check of ok note => exact h.check of ok note
  | refused of what error => exact h.refused of what error
  | skipped | prgBankRead | chrBankRead | foundPrgSize | triedWram => exact h

end Entry

/-! ## Procedures -/

namespace Procedure

variable {α β : Type}

theorem grows_after (procedure : Procedure α) (bench : Bench) :
    bench.report.Grows (procedure.after bench).report := by
  induction procedure generalizing bench with
  | done | stop => exact bench.report.grows_refl
  | operate op next ih => exact ih (bench.operate op).1 (bench.operate op).2
  | enter entry next ih =>
    exact (entry.grows bench.report).trans (ih (bench.onReport entry.make))

/-- A procedure ends at the last report that it passes through. -/
theorem report_after_mem (procedure : Procedure α) (bench : Bench) :
    (procedure.after bench).report ∈ procedure.reports bench := by
  induction procedure generalizing bench with
  | done | stop => exact List.mem_cons_self
  | operate op next ih => exact List.mem_cons_of_mem _ (ih _ _)
  | enter entry next ih => exact List.mem_cons_of_mem _ (ih _)

theorem covered_reports (procedure : Procedure α) (bench : Bench) (h : bench.report.Covered) :
    ∀ report ∈ procedure.reports bench, report.Covered := by
  induction procedure generalizing bench with
  | done | stop =>
    intro report hmem
    rwa [List.mem_singleton.mp hmem]
  | operate op next ih =>
    intro report hmem
    rcases List.mem_cons.mp hmem with rfl | hmem
    · exact h
    · exact ih (bench.operate op).1 (bench.operate op).2 h report hmem
  | enter entry next ih =>
    intro report hmem
    rcases List.mem_cons.mp hmem with rfl | hmem
    · exact h
    · exact ih (bench.onReport entry.make) (entry.covered h) report hmem

end Procedure

/-! ## Boards that have not been brought up -/

/-- Until then all but bringing it up is refused, and nothing happens. -/
theorem Bench.operate_of_not_ready {bench : Bench}
    (hready : bench.session.controller.isReady = false) {req : Request} (hreq : req ≠ .bringUp) :
    bench.operate (.request req) = (.error .notReady, bench) := by
  have hperform := Controller.perform_eq_error_iff.mpr (.notReady hready hreq)
  rw [operate, Operation.perform, Session.request, hperform]

theorem Report.control_refused (report : Report) (check : Check) (what : String)
    (error : MapperError) :
    (report.refused check what error).failures.contains .control = true :=
  (CheckSet.contains_insert _ _ _).mpr (Or.inr rfl)

namespace Procedure

variable {α β : Type}

/-- The procedure makes a request on its way. -/
def Attempts (procedure : Procedure α) (session : Session Console) : Prop :=
  ∃ req met, (met, Operation.request req) ∈ procedure.operations session

section NotReady

variable {bench : Bench} (hready : bench.session.controller.isReady = false) {req : Request}
  (hreq : req ≠ .bringUp) (next : Except MapperError Unit → Procedure α)

include hready hreq

theorem after_request_of_not_ready :
    (operate (.request req) next).after bench = (next (.error .notReady)).after bench := by
  show (next (bench.operate (.request req)).1).after (bench.operate (.request req)).2 = _
  rw [Bench.operate_of_not_ready hready hreq]

theorem operations_request_of_not_ready :
    (operate (.request req) next).operations bench.session =
      (bench.session, .request req) :: (next (.error .notReady)).operations bench.session := by
  show _ :: (next (bench.operate (.request req)).1).operations
    (bench.operate (.request req)).2.session = _
  rw [Bench.operate_of_not_ready hready hreq]

end NotReady

/-- As long as the board is not up, the procedure only makes requests, each of which it records as
refused. Where it ends with a value, that is as `post` says. -/
inductive OnlyAsks (post : α → Prop) : Procedure α → Prop
  | done {value : α} (h : post value) : OnlyAsks post (.done value)
  | stop : OnlyAsks post .stop
  | inspect {next : Descriptor × Header → Procedure α} (h : ∀ known, OnlyAsks post (next known)) :
    OnlyAsks post (.operate .inspect next)
  | refused {req : Request} {next : Except MapperError Unit → Procedure α} {check : Check}
    {what : String} {rest : Procedure α} (hreq : req ≠ .bringUp)
    (hnext : next (.error .notReady) = .enter (.refused check what .notReady) rest)
    (h : OnlyAsks post rest) : OnlyAsks post (.operate (.request req) next)
  | triedWram {next : Procedure α} (h : OnlyAsks post next) : OnlyAsks post (.enter .triedWram next)

namespace OnlyAsks

variable {post : α → Prop} {procedure : Procedure α} {req : Request}

theorem mono {weaker : α → Prop} (h : OnlyAsks post procedure)
    (hpost : ∀ value, post value → weaker value) : OnlyAsks weaker procedure := by
  induction h with
  | done h => exact .done (hpost _ h)
  | stop => exact .stop
  | inspect _ ih => exact .inspect ih
  | refused hreq hnext _ ih => exact .refused hreq hnext ih
  | triedWram _ ih => exact .triedWram ih

theorem bind {next : α → Procedure β} {last : β → Prop} (h : OnlyAsks post procedure)
    (hnext : ∀ value, post value → OnlyAsks last (next value)) :
    OnlyAsks last (procedure >>= next) := by
  induction h with
  | done h => exact hnext _ h
  | stop => exact .stop
  | inspect _ ih => exact .inspect ih
  | refused hreq hrefused _ ih => exact .refused hreq (congrArg (Procedure.bind · next) hrefused) ih
  | triedWram _ ih => exact .triedWram ih

theorem known_bind {next : Descriptor × Header → Procedure α}
    (h : ∀ known, OnlyAsks post (next known)) : OnlyAsks post (known >>= next) :=
  .inspect h

theorem ask (check : Check) (what : String) (hreq : req ≠ .bringUp) :
    OnlyAsks (fun _ => False) (ask check what req) :=
  .refused hreq rfl .stop

theorem attempt (check : Check) (what : String) (hreq : req ≠ .bringUp) :
    OnlyAsks (fun _ => True) (attempt check what req) :=
  .refused hreq rfl (.done trivial)

/-- What comes after something needed is not reached. -/
theorem ask_bind (check : Check) (what : String) (hreq : req ≠ .bringUp)
    (next : Unit → Procedure α) (post : α → Prop) :
    OnlyAsks post (Procedure.ask check what req >>= next) :=
  (ask check what hreq).bind nofun

/-- A loop goes through if it has nothing to do or if its items go through. -/
theorem forM {item : β → Procedure Unit} {goesOn : Prop}
    (h : ∀ entry, OnlyAsks (fun _ => goesOn) (item entry)) (entries : List β) :
    OnlyAsks (fun _ => entries = [] ∨ goesOn) (entries.forM item) := by
  induction entries with
  | nil => exact .done (Or.inl rfl)
  | cons entry rest ih =>
    -- The rest is reached only if the first item went through.
    exact (h entry).bind fun _ hgoes => ih.mono fun _ _ => Or.inr hgoes

/-- On a board that is not up, such a procedure gets to no bus and leaves the session alone, and it
reports a refusal if it made a request. -/
theorem run (h : OnlyAsks post procedure) (bench : Bench)
    (hready : bench.session.controller.isReady = false) :
    (∀ made ∈ procedure.operations bench.session, ¬ made.2.UsesBus made.1) ∧
      (procedure.after bench).session = bench.session ∧
      ((procedure.after bench).report.failures.contains .control = true ↔
        bench.report.failures.contains .control = true ∨ procedure.Attempts bench.session) := by
  induction h generalizing bench with
  | done | stop =>
    refine ⟨fun made hmem => absurd hmem List.not_mem_nil, rfl, ?_⟩
    exact (or_iff_left fun ⟨_, _, hmem⟩ => absurd hmem List.not_mem_nil).symm
  | @inspect next h ih =>
    obtain ⟨hquiet, hsession, hcontrol⟩ := ih (bench.desc, bench.header) bench hready
    have hattempts : (next (bench.desc, bench.header)).Attempts bench.session ↔
        (operate .inspect next).Attempts bench.session := by
      refine exists_congr fun req => exists_congr fun met => ?_
      exact ⟨List.mem_cons_of_mem _, fun hmem => (List.mem_cons.mp hmem).resolve_left nofun⟩
    refine ⟨fun made hmem => ?_, hsession, hcontrol.trans (or_congr_right hattempts)⟩
    rcases List.mem_cons.mp hmem with rfl | hmem
    · exact id
    · exact hquiet made hmem
  | @refused req next check what rest hreq hnext h ih =>
    have hafter := after_request_of_not_ready hready hreq next
    have hoperations := operations_request_of_not_ready hready hreq next
    rw [hnext] at hafter hoperations
    -- What comes next meets the same session and a report with the refusal in it.
    obtain ⟨hquiet, hsession, hcontrol⟩ :=
      ih (bench.onReport (·.refused check what .notReady)) hready
    rw [hafter, hoperations]
    refine ⟨fun made hmem => ?_, hsession, iff_of_true (hcontrol.mpr (Or.inl ?_)) (Or.inr ?_)⟩
    · rcases List.mem_cons.mp hmem with rfl | hmem
      · -- A request gets to the bus when it is granted, and this one is not.
        rintro ⟨granted, hgranted⟩
        rw [Controller.perform_eq_error_iff.mpr (.notReady hready hreq)] at hgranted
        cases hgranted
      · exact hquiet made hmem
    · exact bench.report.control_refused check what .notReady
    · refine ⟨req, bench.session, ?_⟩
      rw [hoperations]
      exact List.mem_cons_self
  | triedWram h ih => exact ih (bench.onReport Entry.triedWram.make) hready

/-! ## Every routine asks first -/

theorem prgBank (window : Window) (number bank : Nat) :
    OnlyAsks (fun _ => False) (prgBank window number bank) :=
  ask_bind _ _ (by nofun) _ _

theorem prgWindow (entry : Window × Nat) : OnlyAsks (fun _ => True) (prgWindow entry) :=
  (forM (prgBank entry.1 entry.2) _).bind fun _ _ => attempt _ _ (by nofun)

theorem prgBanks : OnlyAsks (fun _ => True) prgBanks :=
  known_bind fun _ => (forM prgWindow _).mono fun _ _ => trivial

theorem prgSize : OnlyAsks (fun _ => True) prgSize := by
  refine known_bind fun known => ?_
  cases known.1.prgWindows with
  | nil => exact .done trivial
  | cons window rest => exact ask_bind _ _ (by nofun) _ _

theorem tagChrBank (window : Window) (number bank : Nat) :
    OnlyAsks (fun _ => False) (tagChrBank window number bank) :=
  ask_bind _ _ (by nofun) _ _

theorem chrBank (window : Window) (number bank : Nat) :
    OnlyAsks (fun _ => False) (chrBank window number bank) :=
  ask_bind _ _ (by nofun) _ _

theorem chrWindow (entry : Window × Nat) : OnlyAsks (fun _ => True) (chrWindow entry) := by
  have hread : OnlyAsks (fun _ => True) (do
      entry.1.banks.forM (Procedure.chrBank entry.1 entry.2)
      Procedure.attempt .chrBanks "CHR bank" (.selectChr entry.2 0)) :=
    (forM (chrBank entry.1 entry.2) _).bind fun _ _ => attempt _ _ (by nofun)
  refine known_bind fun known => ?_
  dsimp only
  split
  next => exact (forM (tagChrBank entry.1 entry.2) _).bind fun _ _ => hread
  next => exact hread

theorem chrBanks : OnlyAsks (fun _ => True) chrBanks :=
  known_bind fun _ => (forM chrWindow _).mono fun _ _ => trivial

theorem prepareLatch (entry : Window × Nat) : OnlyAsks (fun _ => False) (prepareLatch entry) :=
  ask _ _ (by nofun)

/-- Without windows there is nothing to prepare and nothing to read; with windows the first one is
refused. -/
theorem chrLatches : OnlyAsks (fun _ => True) chrLatches := by
  refine known_bind fun known => ?_
  refine (forM prepareLatch known.1.chrWindows.zipIdx).bind fun _ hnone => ?_
  rw [hnone.resolve_right id]
  exact .done trivial

theorem wram : OnlyAsks (fun _ => True) wram :=
  .triedWram (ask_bind .wram "WRAM enable" (by nofun) _ _)

theorem mirroringMode (entry : Mirroring × Nat) :
    OnlyAsks (fun _ => True) (mirroringMode entry) :=
  .refused (by nofun) rfl (.done trivial)

theorem oneScreenPages : OnlyAsks (fun _ => True) oneScreenPages :=
  ask_bind _ _ (by nofun) _ _

theorem mirroring : OnlyAsks (fun _ => True) mirroring := by
  refine known_bind fun known => (forM mirroringMode _).bind fun _ _ => ?_
  split
  next => exact oneScreenPages
  next => exact .done trivial

theorem irqChecks (kind : IrqKind) : OnlyAsks (fun _ => True) (irqChecks kind) :=
  ask_bind _ _ (by nofun) _ _

theorem irq : OnlyAsks (fun _ => True) irq := by
  refine known_bind fun known => ?_
  cases known.1.irq with
  | none => exact .done trivial
  | scanline | cpuCycle => exact irqChecks _

end OnlyAsks

end Procedure

theorem Routine.onlyAsks (routine : Routine) :
    routine.procedure.OnlyAsks fun _ => True := by
  cases routine with
  | prgBanks => exact Procedure.OnlyAsks.prgBanks
  | prgSize => exact Procedure.OnlyAsks.prgSize
  | chrBanks => exact Procedure.OnlyAsks.chrBanks
  | chrLatches => exact Procedure.OnlyAsks.chrLatches
  | wram => exact Procedure.OnlyAsks.wram
  | mirroring => exact Procedure.OnlyAsks.mirroring
  | irq => exact Procedure.OnlyAsks.irq

/-! ## Routines in a row -/

namespace Bench

theorem grows_perform (bench : Bench) (routine : Routine) :
    bench.report.Grows (routine.perform bench).report := by
  rw [← routine.after_procedure]
  exact routine.procedure.grows_after bench

theorem covered_perform {bench : Bench} (h : bench.report.Covered) (routine : Routine) :
    (routine.perform bench).report.Covered := by
  rw [← routine.after_procedure]
  exact routine.procedure.covered_reports bench h _ (routine.procedure.report_after_mem bench)

theorem grows_performAll (bench : Bench) (routines : List Routine) :
    bench.report.Grows (bench.performAll routines).report := by
  induction routines generalizing bench with
  | nil => exact bench.report.grows_refl
  | cons routine rest ih => exact (bench.grows_perform routine).trans (ih (routine.perform bench))

theorem covered_performAll {bench : Bench} (h : bench.report.Covered) (routines : List Routine) :
    (bench.performAll routines).report.Covered := by
  induction routines generalizing bench with
  | nil => exact h
  | cons routine rest ih => exact ih (covered_perform h routine)

end Bench

/-- Whatever a controller is and whatever is in its console: each routine on a report that others
have written adds to it, and later ones take nothing away; at no point of the routine has anything
failed that was not tested, but for refusals. If the board has not been brought up, the routine gets
to no bus, the session stays as it is, and a refusal is reported exactly if a request was made. -/
theorem report_accumulates (session : Session Console) (earlier : List Routine)
    (routine : Routine) :
    let bench := (Bench.start session).performAll earlier
    let after := routine.perform bench
    let procedure := routine.procedure
    procedure.after bench = after ∧
      bench.report.Grows after.report ∧
      (∀ later, after.report.Grows (after.performAll later).report) ∧
      (∀ report ∈ procedure.reports bench, report.failures ⊆ report.tested.insert .control) ∧
      (bench.session.controller.isReady = false →
        (∀ made ∈ procedure.operations bench.session, ¬ made.2.UsesBus made.1) ∧
          after.session = bench.session ∧
          (bench.report.failures.contains .control = false →
            (after.report.failures.contains .control = true ↔
              procedure.Attempts bench.session))) := by
  intro bench after procedure
  have hafter : procedure.after bench = after := routine.after_procedure bench
  have hcovered : bench.report.Covered :=
    Bench.covered_performAll (Report.covered_fresh session.controller.board) earlier
  refine ⟨hafter, bench.grows_perform routine, after.grows_performAll,
    procedure.covered_reports bench hcovered, fun hready => ?_⟩
  obtain ⟨hquiet, hsession, hcontrol⟩ := routine.onlyAsks.run bench hready
  rw [hafter] at hsession hcontrol
  refine ⟨hquiet, hsession, fun hfresh => hcontrol.trans (or_iff_right ?_)⟩
  rw [hfresh]
  exact Bool.false_ne_true

/-- Before the bring-up the work RAM routine makes a request and reports that it is refused, on a
board without work RAM too; the PRG routine has no window there to ask for. -/
theorem report_accumulates_unready :
    let cart := Cartridge.ofParts .nrom #[0xFF] (.ram 0) .horizontal
    let session := Session.start .nrom (Console.powerOn cart)
    let bench := Bench.start session
    (Routine.wram.perform bench).session = session ∧
      (Routine.wram.perform bench).report.failures.contains .control = true ∧
      (Routine.prgBanks.perform bench).report.failures.contains .control = false := by
  intro cart session bench
  have hstart : (Bench.start session).performAll [] = bench := rfl
  have hfresh : bench.report.failures.contains .control = false :=
    show CheckSet.contains {} .control = false by decide
  obtain ⟨-, -, -, -, hwram⟩ := report_accumulates session [] .wram
  obtain ⟨-, -, -, -, hprg⟩ := report_accumulates session [] .prgBanks
  rw [hstart] at hwram hprg
  obtain ⟨-, hsession, hrefused⟩ := hwram rfl
  obtain ⟨-, -, hnone⟩ := hprg rfl
  have hattempts : Routine.wram.procedure.Attempts session :=
    ⟨.setWram .readWrite, session, List.mem_cons_self⟩
  refine ⟨hsession, (hrefused hfresh).mpr hattempts, Bool.eq_false_iff.mpr fun h => ?_⟩
  obtain ⟨req, met, hmem⟩ := (hnone hfresh).mp h
  cases List.mem_singleton.mp hmem

end NesCartridge
