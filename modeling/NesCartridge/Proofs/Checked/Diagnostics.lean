/-
  NesCartridge.Proofs.Checked.Diagnostics

  The diagnostic routines with every step checked that can fail: the sizes and tags that they work
  out, the bank numbers that they double, and all the requests and accesses that they make. A
  checked routine that follows the plain one (`Bench.Follows`) traps nowhere, does the same, and
  leaves the bench sound wherever it stops. Main statement: on a sound bench every routine does, and
  so does a whole run (`Routine.followed`, `Bench.run_followed`). The bench need not be healthy:
  the memories may be empty, the header wrong and the controller that of another board. What a
  report counts stays out of it: no place and no length is made of it.
-/
import NesCartridge.Diagnostics
import NesCartridge.Proofs.Checked.Controller

namespace NesCartridge

open Checked

/-! ## Numbers -/

def checkedPageTag (bank : Nat) (window : Window) (pageSize total : Nat) : Checked UInt8 := do
  let pages := Nat.max (← div total pageSize) 1
  let page ← div (← fit sizeLimit (bank * window.size)) pageSize
  return UInt8.ofNat (← mod page pages)

namespace Window

/-- The largest bank number is a byte and a bank no more than 32 KiB. -/
def Small (window : Window) : Prop :=
  window.maxBank ≤ 255 ∧ window.size ≤ 0x8000
  deriving Decidable

/-- Everything that the window can reach. -/
def checkedReach (window : Window) : Checked Nat := do
  let banks ← fit sizeLimit (window.maxBank + 1)
  fit sizeLimit (banks * window.size)

/-- The numbers 1, 2, 4, … up to the largest bank, in 16 bits. After `steps` numbers it is over. -/
def checkedDoublings (window : Window) : (steps bank : Nat) → Checked (List Nat)
  | 0, _ => return []
  | steps + 1, bank => do
    if bank ≤ window.maxBank then
      return bank :: (← window.checkedDoublings steps (← fit 0x10000 (bank * 2)))
    else return []

/-- The bank of the latch check, in 16 bits. -/
def checkedLatchBank (window : Window) (number : Nat) : Checked Nat := do
  let tripled ← fit 0x10000 (number % 0x10000 * 3)
  let start ← fit 0x10000 (tripled + 1)
  mod start (← fit 0x10000 (window.maxBank + 1))

end Window

/-- The windows of the registry are small, and there are no more than eight of a kind. -/
theorem Board.small_windows (board : Board) :
    (∀ window ∈ board.descriptor.prgWindows, window.Small) ∧
      (∀ window ∈ board.descriptor.chrWindows, window.Small) ∧
      board.descriptor.prgWindows.length ≤ 8 ∧ board.descriptor.chrWindows.length ≤ 8 := by
  cases board <;> decide

namespace Window.Small

variable {window : Window}

/-- Where a bank starts is a number of 64 bits. -/
theorem start_lt (h : window.Small) {bank : Nat} (hbank : bank ≤ window.maxBank + 1) :
    bank * window.size < sizeLimit := by
  have hle : bank * window.size ≤ 256 * 0x8000 :=
    Nat.mul_le_mul (Nat.le_trans hbank (Nat.succ_le_succ h.1)) h.2
  exact Nat.lt_of_le_of_lt hle (by decide)

theorem checkedPageTag_eq (h : window.Small) {bank : Nat} (hbank : bank ≤ window.maxBank)
    {pageSize : Nat} (hpage : 0 < pageSize) (total : Nat) :
    checkedPageTag bank window pageSize total = .ok (pageTag bank window pageSize total) := by
  have hpages : 0 < Nat.max (total / pageSize) 1 :=
    Nat.lt_of_lt_of_le Nat.one_pos (Nat.le_max_right _ _)
  simp only [checkedPageTag, div_eq hpage, fit_eq (h.start_lt (Nat.le_succ_of_le hbank)),
    mod_eq hpages, ok_bind, pure_eq, pageTag]

theorem checkedReach_eq (h : window.Small) : window.checkedReach = .ok window.reach := by
  have hbanks : window.maxBank + 1 < sizeLimit :=
    Nat.lt_of_le_of_lt (Nat.succ_le_succ h.1) (by decide)
  rw [checkedReach, fit_eq hbanks, ok_bind, fit_eq (h.start_lt (Nat.le_refl _)), reach]

theorem checkedLatchBank_eq (h : window.Small) {number : Nat} (hnumber : number < 8) :
    window.checkedLatchBank number = .ok (Bench.latchBank window number) := by
  have hmax := h.1
  rw [checkedLatchBank, Nat.mod_eq_of_lt (by omega), fit_eq (by omega), ok_bind,
    fit_eq (by omega), ok_bind, fit_eq (by omega), ok_bind, mod_eq (Nat.succ_pos _),
    Bench.latchBank]

/-- Doubling ends before the numbers get too large, and leaves out nothing. -/
theorem checkedDoublings_from (h : window.Small) (steps start : Nat) :
    window.checkedDoublings steps (1 <<< start) =
      .ok (((List.range' start steps).map (1 <<< ·)).filter (· ≤ window.maxBank)) := by
  induction steps generalizing start with
  | zero => rfl
  | succ steps ih =>
    rw [checkedDoublings, List.range'_succ, List.map_cons]
    by_cases hbank : 1 <<< start ≤ window.maxBank
    · have hfit : 1 <<< start * 2 < 0x10000 := by
        have := h.1
        omega
      have hdouble : 1 <<< start * 2 = 1 <<< (start + 1) := by
        rw [Nat.mul_comm, Nat.shiftLeft_succ]
      rw [if_pos hbank, List.filter_cons, if_pos (decide_eq_true hbank), fit_eq hfit, ok_bind,
        hdouble, ih]
      rfl
    · -- What comes after a number that is too large is larger still.
      have hrest : ((List.range' (start + 1) steps).map (1 <<< ·)).filter
          (· ≤ window.maxBank) = [] := by
        rw [List.filter_eq_nil_iff]
        intro bank hmem
        obtain ⟨i, hi, rfl⟩ := List.mem_map.mp hmem
        have hle : 1 <<< start ≤ 1 <<< i := by
          rw [Nat.one_shiftLeft, Nat.one_shiftLeft]
          exact Nat.pow_le_pow_right Nat.two_pos (by have := List.mem_range'_1.mp hi; omega)
        rw [decide_eq_true_eq]
        omega
      rw [if_neg hbank, List.filter_cons, if_neg (by simpa using hbank), hrest]
      rfl

theorem checkedDoublings_eq (h : window.Small) :
    window.checkedDoublings 16 1 = .ok (Bench.doublings window) := by
  rw [Bench.doublings, List.range_eq_range']
  exact h.checkedDoublings_from 16 0
end Window.Small

theorem Bench.latchBank_le (window : Window) (number : Nat) :
    latchBank window number ≤ window.maxBank :=
  Nat.le_of_lt_succ (Nat.mod_lt _ (Nat.succ_pos _))

/-! ## Steps -/

namespace Bench

def checkedOnConsole (bench : Bench) (f : Console → Checked Console) : Checked Bench := do
  let bus ← f bench.session.bus
  return { bench with session := { bench.session with bus } }

def checkedRequest (bench : Bench) (req : Request) :
    Checked (Except MapperError Unit × Bench) := do
  let (outcome, session) ← bench.session.checkedRequest req
  return (outcome, { bench with session })

def checkedAsk (bench : Bench) (check : Check) (what : String) (req : Request) :
    Attempt Bench Bench := do
  match ← liftM (bench.checkedRequest req) with
  | (.ok (), bench) => return bench
  | (.error err, bench) => throw (bench.onReport (·.refused check what err))

def checkedRead (bench : Bench) (addr : UInt16) : Checked UInt8 :=
  bench.console.checkedReadCpu addr

def checkedWrite (bench : Bench) (addr : UInt16) (data : UInt8) : Checked Bench :=
  bench.checkedOnConsole (·.checkedWriteCpu addr data)

def checkedReadPpu (bench : Bench) (addr : UInt16) : Checked (UInt8 × Bench) := do
  let (data, bus) ← bench.session.bus.checkedReadPpu addr
  return (data, { bench with session := { bench.session with bus } })

def checkedWritePpu (bench : Bench) (addr : UInt16) (data : UInt8) : Checked Bench :=
  bench.checkedOnConsole (·.checkedWritePpu addr data)

/-- What is under test is sound; the report does not matter. -/
def Sound (bench : Bench) : Prop :=
  bench.session.Sound

/-- A checked routine traps nowhere and does what the plain one does. What goes on is as `post`
says, and where it stops the bench is sound. -/
inductive Follows {α : Type} (post : α → Prop) : Attempt Bench α → Except Bench α → Prop
  | passes {value : α} (h : post value) : Follows post (settled (.ok value)) (.ok value)
  | stops {bench : Bench} (h : bench.Sound) :
      Follows post (settled (.error bench)) (.error bench)

/-- Where a checked routine ended, stopped or not. -/
def checkedFinish (progress : Attempt Bench Bench) : Checked Bench :=
  return finish (← progress.run)

namespace Follows

variable {α β : Type} {post : α → Prop} {checked : Attempt Bench α} {plain : Except Bench α}

/-- What comes next may rely on what went before. -/
theorem bind {last : β → Prop} {checkedNext : α → Attempt Bench β} {next : α → Except Bench β}
    (h : Follows post checked plain)
    (hnext : ∀ value, post value → Follows last (checkedNext value) (next value)) :
    Follows last (checked >>= checkedNext) (plain >>= next) := by
  cases h with
  | passes h => exact hnext _ h
  | stops h => exact .stops h

/-- A checked step that is known to go through. -/
theorem step {last : β → Prop} {before : Checked α} {value : α}
    {checkedNext : α → Attempt Bench β} {next : Except Bench β} (hstep : before = .ok value)
    (hnext : Follows last (checkedNext value) next) :
    Follows last (liftM before >>= checkedNext) next := by
  rw [hstep]
  exact hnext

theorem lift {before : Checked α} {value : α} (hstep : before = .ok value) (h : post value) :
    Follows post (liftM before) (.ok value) := by
  rw [hstep]
  exact .passes h

theorem foldlM {checkedStep : Bench → α → Attempt Bench Bench} {step : Bench → α → Progress}
    {items : List α}
    (hstep : ∀ bench, bench.Sound → ∀ item ∈ items,
      Follows Bench.Sound (checkedStep bench item) (step bench item))
    {bench : Bench} (h : bench.Sound) :
    Follows Bench.Sound (items.foldlM checkedStep bench) (items.foldlM step bench) := by
  induction items generalizing bench with
  | nil => exact .passes h
  | cons item rest ih =>
    rw [List.foldlM_cons, List.foldlM_cons]
    exact (hstep bench h item (List.mem_cons_self ..)).bind fun next hnext =>
      ih (fun bench h item hmem => hstep bench h item (List.mem_cons_of_mem _ hmem)) hnext

/-- Stopped or not, the bench is sound in the end. -/
theorem finish {checked : Attempt Bench Bench} {plain : Progress}
    (h : Follows Bench.Sound checked plain) :
    checkedFinish checked = .ok (Bench.finish plain) ∧ (Bench.finish plain).Sound := by
  cases h with
  | passes h => exact ⟨rfl, h⟩
  | stops h => exact ⟨rfl, h⟩

end Follows

namespace Sound

variable {bench : Bench}

/-- The report is no part of what is under test. -/
theorem check (h : bench.Sound) (check : Check) (ok : Bool) (note : Note) :
    (bench.check check ok note).Sound := h

theorem foldlM {α : Type} {checkedStep : Bench → α → Checked Bench} {step : Bench → α → Bench}
    (h : bench.Sound) (items : List α)
    (hstep : ∀ bench : Bench, bench.Sound → ∀ item ∈ items,
      checkedStep bench item = .ok (step bench item) ∧ (step bench item).Sound) :
    items.foldlM checkedStep bench = .ok (items.foldl step bench) ∧
      (items.foldl step bench).Sound :=
  foldlM_eq hstep h

theorem onConsole (h : bench.Sound) {f : Console → Console} (hf : (f bench.console).Sound) :
    (bench.onConsole f).Sound :=
  Session.Sound.onConsole h hf

theorem request (h : bench.Sound) (req : Request) :
    bench.checkedRequest req = .ok (bench.request req) ∧ (bench.request req).2.Sound := by
  obtain ⟨hrequest, hsound⟩ := Session.Sound.request h req
  refine ⟨?_, hsound⟩
  rw [checkedRequest, hrequest]
  rfl

/-- The same with the outcome and the bench afterwards named. -/
theorem exists_request (h : bench.Sound) (req : Request) :
    ∃ outcome next, bench.checkedRequest req = .ok (outcome, next) ∧
      bench.request req = (outcome, next) ∧ next.Sound := by
  obtain ⟨hrequest, hsound⟩ := h.request req
  exact ⟨_, _, hrequest, rfl, hsound⟩

/-- A refusal stops the routine where the request left the bench. -/
theorem ask (h : bench.Sound) (check : Check) (what : String) (req : Request) :
    Follows Bench.Sound (bench.checkedAsk check what req) (bench.ask check what req) := by
  obtain ⟨outcome, next, hchecked, hplain, h⟩ := h.exists_request req
  refine .step hchecked ?_
  rw [Bench.ask, hplain]
  cases outcome with
  | ok _ => exact .passes h
  | error _ => exact .stops h

theorem read (h : bench.Sound) (addr : UInt16) : bench.checkedRead addr = .ok (bench.read addr) :=
  h.console.checkedReadCpu_eq addr

theorem write (h : bench.Sound) (addr : UInt16) (data : UInt8) :
    bench.checkedWrite addr data = .ok (bench.write addr data) ∧ (bench.write addr data).Sound := by
  refine ⟨?_, h.onConsole (h.console.writeCpu addr data)⟩
  rw [checkedWrite, checkedOnConsole, h.console.checkedWriteCpu_eq]
  rfl

theorem readPpu (h : bench.Sound) (addr : UInt16) :
    bench.checkedReadPpu addr = .ok (bench.readPpu addr) ∧ (bench.readPpu addr).2.Sound := by
  refine ⟨?_, Session.Sound.onConsole h (h.console.readPpu addr)⟩
  rw [checkedReadPpu, h.console.checkedReadPpu_eq]
  rfl

theorem writePpu (h : bench.Sound) (addr : UInt16) (data : UInt8) :
    bench.checkedWritePpu addr data = .ok (bench.writePpu addr data) ∧
      (bench.writePpu addr data).Sound := by
  refine ⟨?_, h.onConsole (h.console.writePpu addr data)⟩
  rw [checkedWritePpu, checkedOnConsole, h.console.checkedWritePpu_eq]
  rfl

end Sound

/-! ## PRG -/

def checkedPrgBank (window : Window) (number : Nat) (bench : Bench) (bank : Nat) :
    Attempt Bench Bench := do
  let bench ← bench.checkedAsk .prgBanks "PRG bank" (.selectPrg number bank)
  let expected ← liftM (checkedPageTag bank window prgPageSize bench.header.prgRomSize)
  let got ← liftM (bench.checkedRead window.base)
  let bench := bench.check .prgBanks (got == expected) (.prgBank number bank got expected)
  return bench.onReport fun r => { r with prgBanks := r.prgBanks + 1 }

def checkedPrgWindow (bench : Bench) (entry : Window × Nat) : Attempt Bench Bench := do
  let (window, number) := entry
  let bench ← window.banks.foldlM (checkedPrgBank window number) bench
  liftM (checkedFinish (bench.checkedAsk .prgBanks "PRG bank" (.selectPrg number 0)))

def checkedPrgBanks (bench : Bench) : Checked Bench :=
  checkedFinish (bench.desc.prgWindows.zipIdx.foldlM checkedPrgWindow bench)

def checkedFindRepeat (window : Window) (first : UInt8) :
    List Nat → Bench → Attempt Bench (Nat × Bench)
  | [], bench => return (← liftM window.checkedReach, bench)
  | bank :: rest, bench => do
    let bench ← bench.checkedAsk .prgSize "PRG size" (.selectPrg 0 bank)
    if (← liftM (bench.checkedRead window.base)) == first then
      return (← liftM (fit sizeLimit (bank * window.size)), bench)
    else
      checkedFindRepeat window first rest bench

def checkedPrgSize (bench : Bench) : Checked Bench :=
  match bench.desc.prgWindows with
  | [] => return bench
  | window :: _ => checkedFinish do
    let bench ← bench.checkedAsk .prgSize "PRG size" (.selectPrg 0 0)
    let first ← liftM (bench.checkedRead window.base)
    let banks ← liftM (window.checkedDoublings 16 1)
    let (size, bench) ← checkedFindRepeat window first banks bench
    let bench ← bench.checkedAsk .prgSize "PRG size" (.selectPrg 0 0)
    let bench := bench.onReport fun r => { r with prgSize := some size }
    let stated := bench.header.prgRomSize
    return bench.check .prgSize (size = Nat.max stated window.size) (.prgSize size stated)

namespace Sound

variable {bench : Bench} {window : Window} {number : Nat}

theorem prgBank (h : bench.Sound) (hwindow : window.Small) {bank : Nat}
    (hbank : bank ∈ window.banks) :
    Follows Bench.Sound (checkedPrgBank window number bench bank)
      (Bench.prgBank window number bench bank) := by
  refine (h.ask ..).bind fun bench h => ?_
  refine .step (hwindow.checkedPageTag_eq (Window.le_maxBank_of_mem hbank) (by decide) _) ?_
  exact .step (h.read _) (.passes h)

theorem prgWindow (h : bench.Sound) {entry : Window × Nat} (hwindow : entry.1.Small) :
    Follows Bench.Sound (checkedPrgWindow bench entry) (Bench.prgWindow bench entry) := by
  refine (Follows.foldlM (fun bench h bank hbank => h.prgBank hwindow hbank) h).bind
    fun bench h => ?_
  obtain ⟨hfinish, hsound⟩ := (h.ask .prgBanks "PRG bank" (.selectPrg entry.2 0)).finish
  exact .lift hfinish hsound

/-- The item found and the number shown are those of the plain search. -/
theorem findRepeat (h : bench.Sound) (hwindow : window.Small) (first : UInt8) {banks : List Nat}
    (hbanks : ∀ bank ∈ banks, bank ≤ window.maxBank) :
    Follows (fun found => found.2.Sound) (checkedFindRepeat window first banks bench)
      (Bench.findRepeat window first banks bench) := by
  induction banks generalizing bench with
  | nil => exact .step hwindow.checkedReach_eq (.passes h)
  | cons bank rest ih =>
    obtain ⟨hbank, hrest⟩ := List.forall_mem_cons.mp hbanks
    refine (h.ask ..).bind fun bench h => ?_
    refine .step (h.read _) ?_
    split
    next => exact .step (fit_eq (hwindow.start_lt (Nat.le_succ_of_le hbank))) (.passes h)
    next => exact ih h hrest

theorem prgBanks (h : bench.Sound) :
    bench.checkedPrgBanks = .ok bench.prgBanks ∧ bench.prgBanks.Sound := by
  have hsmall := bench.board.small_windows.1
  refine (Follows.foldlM (fun bench h entry hentry => ?_) h).finish
  exact h.prgWindow (hsmall _ (List.fst_mem_of_mem_zipIdx hentry))

theorem prgSize (h : bench.Sound) :
    bench.checkedPrgSize = .ok bench.prgSize ∧ bench.prgSize.Sound := by
  rw [checkedPrgSize, Bench.prgSize]
  cases hwindows : bench.desc.prgWindows with
  | nil => exact ⟨rfl, h⟩
  | cons window rest =>
    have hsmall : window.Small :=
      bench.board.small_windows.1 window (hwindows ▸ List.mem_cons_self ..)
    refine Follows.finish ((h.ask ..).bind fun bench h => ?_)
    refine .step (h.read _) (.step hsmall.checkedDoublings_eq ?_)
    have hle : ∀ bank ∈ doublings window, bank ≤ window.maxBank := fun bank hbank =>
      of_decide_eq_true (List.mem_filter.mp hbank).2
    refine (h.findRepeat hsmall _ hle).bind fun found h => ?_
    exact (h.ask ..).bind fun bench h => .passes h

end Sound

/-! ## CHR -/

def checkedTagChrBank (window : Window) (number : Nat) (bench : Bench) (bank : Nat) :
    Attempt Bench Bench := do
  let bench ← bench.checkedAsk .chrBanks "CHR bank" (.selectChr number bank)
  let tag ← liftM (checkedPageTag bank window chrPageSize bench.chrTotal)
  liftM (bench.checkedWritePpu window.base tag)

def checkedChrBank (window : Window) (number : Nat) (bench : Bench) (bank : Nat) :
    Attempt Bench Bench := do
  let bench ← bench.checkedAsk .chrBanks "CHR bank" (.selectChr number bank)
  let expected ← liftM (checkedPageTag bank window chrPageSize bench.chrTotal)
  let (got, bench) ← liftM (bench.checkedReadPpu window.base)
  let bench := bench.check .chrBanks (got == expected) (.chrBank number bank got expected)
  return bench.onReport fun r => { r with chrBanks := r.chrBanks + 1 }

def checkedChrWindow (bench : Bench) (entry : Window × Nat) : Attempt Bench Bench := do
  let (window, number) := entry
  let bench ←
    if bench.header.chrRomSize = 0 then
      window.banks.foldlM (checkedTagChrBank window number) bench
    else pure bench
  let bench ← window.banks.foldlM (checkedChrBank window number) bench
  liftM (checkedFinish (bench.checkedAsk .chrBanks "CHR bank" (.selectChr number 0)))

def checkedChrBanks (bench : Bench) : Checked Bench :=
  checkedFinish
    ((bench.desc.chrWindows.zipIdx.filter (·.1.latch.isNone)).foldlM checkedChrWindow bench)

def checkedPrepareLatch (bench : Bench) (entry : Window × Nat) : Attempt Bench Bench := do
  let bank ← liftM (entry.1.checkedLatchBank entry.2)
  bench.checkedAsk .chrLatches "CHR latch" (.selectChr entry.2 bank)

def checkedChrLatch (bench : Bench) (entry : Window × Nat) : Checked Bench := do
  let (window, number) := entry
  match window.latch with
  | none => return bench
  | some latch =>
    let bank ← window.checkedLatchBank number
    let (_, bench) ← bench.checkedReadPpu (latchTrigger window.base latch)
    let expected ← checkedPageTag bank window chrPageSize bench.chrTotal
    let (got, bench) ← bench.checkedReadPpu window.base
    let bench :=
      bench.check .chrLatches (got == expected) (.chrLatch latch window.base got expected)
    return bench.onReport fun r => { r with chrBanks := r.chrBanks + 1 }

def checkedChrLatches (bench : Bench) : Checked Bench :=
  let windows := bench.desc.chrWindows.zipIdx
  checkedFinish do
    let bench ← windows.foldlM checkedPrepareLatch bench
    liftM (windows.foldlM checkedChrLatch bench)

namespace Sound

variable {bench : Bench} {window : Window} {number : Nat}

theorem tagChrBank (h : bench.Sound) (hwindow : window.Small) {bank : Nat}
    (hbank : bank ∈ window.banks) :
    Follows Bench.Sound (checkedTagChrBank window number bench bank)
      (Bench.tagChrBank window number bench bank) := by
  refine (h.ask ..).bind fun bench h => ?_
  refine .step (hwindow.checkedPageTag_eq (Window.le_maxBank_of_mem hbank) (by decide) _) ?_
  obtain ⟨hwrite, hsound⟩ := h.writePpu window.base
    (pageTag bank window chrPageSize bench.chrTotal)
  exact .lift hwrite hsound

theorem chrBank (h : bench.Sound) (hwindow : window.Small) {bank : Nat}
    (hbank : bank ∈ window.banks) :
    Follows Bench.Sound (checkedChrBank window number bench bank)
      (Bench.chrBank window number bench bank) := by
  refine (h.ask ..).bind fun bench h => ?_
  refine .step (hwindow.checkedPageTag_eq (Window.le_maxBank_of_mem hbank) (by decide) _) ?_
  obtain ⟨hread, hsound⟩ := h.readPpu window.base
  exact .step hread (.passes hsound)

theorem chrWindow (h : bench.Sound) {entry : Window × Nat} (hwindow : entry.1.Small) :
    Follows Bench.Sound (checkedChrWindow bench entry) (Bench.chrWindow bench entry) := by
  have hbanks : ∀ bench : Bench, bench.Sound → Follows Bench.Sound
      (do
        let bench ← entry.1.banks.foldlM (checkedChrBank entry.1 entry.2) bench
        liftM (checkedFinish (bench.checkedAsk .chrBanks "CHR bank" (.selectChr entry.2 0))))
      (do
        let bench ← entry.1.banks.foldlM (Bench.chrBank entry.1 entry.2) bench
        return finish (bench.ask .chrBanks "CHR bank" (.selectChr entry.2 0))) := by
    intro bench h
    refine (Follows.foldlM (fun bench h bank hbank => h.chrBank hwindow hbank) h).bind
      fun bench h => ?_
    obtain ⟨hfinish, hsound⟩ := (h.ask .chrBanks "CHR bank" (.selectChr entry.2 0)).finish
    exact .lift hfinish hsound
  -- Only RAM gets its tags first, so what comes after stands in two places.
  rw [checkedChrWindow, Bench.chrWindow]
  dsimp only
  split
  next =>
    exact (Follows.foldlM (fun bench h bank hbank => h.tagChrBank hwindow hbank) h).bind hbanks
  next => exact hbanks bench h

theorem chrBanks (h : bench.Sound) :
    bench.checkedChrBanks = .ok bench.chrBanks ∧ bench.chrBanks.Sound := by
  have hsmall := bench.board.small_windows.2.1
  refine (Follows.foldlM (fun bench h entry hentry => ?_) h).finish
  exact h.chrWindow (hsmall _ (List.fst_mem_of_mem_zipIdx (List.mem_filter.mp hentry).1))

theorem prepareLatch (h : bench.Sound) {entry : Window × Nat} (hwindow : entry.1.Small)
    (hnumber : entry.2 < 8) :
    Follows Bench.Sound (checkedPrepareLatch bench entry) (Bench.prepareLatch bench entry) :=
  .step (hwindow.checkedLatchBank_eq hnumber) (h.ask ..)

theorem chrLatch (h : bench.Sound) {entry : Window × Nat} (hwindow : entry.1.Small)
    (hnumber : entry.2 < 8) :
    checkedChrLatch bench entry = .ok (bench.chrLatch entry) ∧ (bench.chrLatch entry).Sound := by
  obtain ⟨window, number⟩ := entry
  rw [checkedChrLatch, Bench.chrLatch]
  cases hlatch : window.latch with
  | none => exact ⟨rfl, h⟩
  | some latch =>
    obtain ⟨htrigger, h⟩ := h.readPpu (latchTrigger window.base latch)
    obtain ⟨hread, h⟩ := h.readPpu window.base
    have hle := latchBank_le window number
    simp only [hwindow.checkedLatchBank_eq hnumber, htrigger, ok_bind, hread,
      hwindow.checkedPageTag_eq hle (show 0 < chrPageSize by decide)]
    exact ⟨rfl, h⟩

theorem chrLatches (h : bench.Sound) :
    bench.checkedChrLatches = .ok bench.chrLatches ∧ bench.chrLatches.Sound := by
  obtain ⟨-, hsmall, -, hcount⟩ := bench.board.small_windows
  have hentry : ∀ entry ∈ bench.desc.chrWindows.zipIdx, entry.1.Small ∧ entry.2 < 8 :=
    fun entry hmem => ⟨hsmall _ (List.fst_mem_of_mem_zipIdx hmem),
      Nat.lt_of_lt_of_le (List.snd_lt_of_mem_zipIdx hmem) hcount⟩
  refine Follows.finish ((Follows.foldlM (fun bench h entry hmem => ?_) h).bind
    fun bench h => ?_)
  · exact h.prepareLatch (hentry entry hmem).1 (hentry entry hmem).2
  · obtain ⟨hlatches, hsound⟩ := h.foldlM _ fun bench h entry hmem =>
      h.chrLatch (hentry entry hmem).1 (hentry entry hmem).2
    exact .lift hlatches hsound

end Sound

/-! ## Work RAM -/

def checkedWramDisable (bench : Bench) : Attempt Bench Bench := do
  match ← liftM (bench.checkedRequest (.setWram .disabled)) with
  | (.error err, bench) => return bench.onReport (·.note (.skipped "WRAM disable" err))
  | (.ok (), bench) =>
    let bench ← liftM (bench.checkedWrite Address.wramStart 0xC3)
    let disabled ← liftM (bench.checkedRead Address.wramStart)
    let bench ← bench.checkedAsk .wram "WRAM re-enable" (.setWram .readWrite)
    let kept ← liftM (bench.checkedRead Address.wramStart)
    return bench.check .wramDisable (disabled == openBus Address.wramStart && kept == 0xA5)
      (.wramDisabled disabled kept)

def checkedWramProtect (bench : Bench) : Attempt Bench Bench := do
  match ← liftM (bench.checkedRequest (.setWram .readOnly)) with
  | (.error err, bench) => return bench.onReport (·.note (.skipped "WRAM protect" err))
  | (.ok (), bench) =>
    let bench ← liftM (bench.checkedWrite Address.wramStart 0x11)
    let got ← liftM (bench.checkedRead Address.wramStart)
    let bench ← bench.checkedAsk .wram "WRAM re-enable" (.setWram .readWrite)
    return bench.check .wramProtect (got == 0xA5) (.wramProtected got)

def checkedWram (bench : Bench) : Checked Bench := checkedFinish do
  let bench := bench.onReport fun r => { r with wram := true }
  let bench ← bench.checkedAsk .wram "WRAM enable" (.setWram .readWrite)
  let bench ← liftM (bench.checkedWrite Address.wramStart 0xA5)
  let bench ← liftM (bench.checkedWrite Address.wramEnd 0x5A)
  let first ← liftM (bench.checkedRead Address.wramStart)
  let last ← liftM (bench.checkedRead Address.wramEnd)
  let bench := bench.check .wram (first == 0xA5 && last == 0x5A) (.wramContents first last)
  let bench ← bench.checkedWramDisable
  bench.checkedWramProtect

namespace Sound

variable {bench : Bench}

theorem wramDisable (h : bench.Sound) :
    Follows Bench.Sound bench.checkedWramDisable bench.wramDisable := by
  obtain ⟨outcome, next, hchecked, hplain, h⟩ := h.exists_request (.setWram .disabled)
  refine .step hchecked ?_
  rw [Bench.wramDisable, hplain]
  cases outcome with
  | error _ => exact .passes h
  | ok _ =>
    obtain ⟨hwrite, h⟩ := h.write Address.wramStart 0xC3
    refine .step hwrite (.step (h.read _) ?_)
    exact (h.ask ..).bind fun bench h => .step (h.read _) (.passes h)

theorem wramProtect (h : bench.Sound) :
    Follows Bench.Sound bench.checkedWramProtect bench.wramProtect := by
  obtain ⟨outcome, next, hchecked, hplain, h⟩ := h.exists_request (.setWram .readOnly)
  refine .step hchecked ?_
  rw [Bench.wramProtect, hplain]
  cases outcome with
  | error _ => exact .passes h
  | ok _ =>
    obtain ⟨hwrite, h⟩ := h.write Address.wramStart 0x11
    refine .step hwrite (.step (h.read _) ?_)
    exact (h.ask ..).bind fun bench h => .passes h

theorem wram (h : bench.Sound) : bench.checkedWram = .ok bench.wram ∧ bench.wram.Sound := by
  have hnoted : (bench.onReport fun r => { r with wram := true }).Sound := h
  refine Follows.finish ((hnoted.ask ..).bind fun bench h => ?_)
  obtain ⟨hfirst, h⟩ := h.write Address.wramStart 0xA5
  refine .step hfirst ?_
  obtain ⟨hlast, h⟩ := h.write Address.wramEnd 0x5A
  refine .step hlast (.step (h.read _) (.step (h.read _) ?_))
  exact (wramDisable (h.check ..)).bind fun bench h => h.wramProtect

end Sound

/-! ## Mirroring -/

def checkedSeenAt (marker : UInt8) : List UInt16 → Bench → Checked (List Bool × Bench)
  | [], bench => return ([], bench)
  | base :: rest, bench => do
    let (got, bench) ← bench.checkedReadPpu base
    let (seen, bench) ← checkedSeenAt marker rest bench
    return ((got == marker) :: seen, bench)

def checkedMirroringMode (bench : Bench) (entry : Mirroring × Nat) : Checked Bench := do
  let (mode, number) := entry
  match ← bench.checkedRequest (.setMirroring mode) with
  | (.error err, bench) => return bench.onReport (·.refused .mirroring "mirroring" err)
  | (.ok (), bench) =>
    let bench ← nametableBases.reverse.foldlM (fun bench base => bench.checkedWritePpu base 0) bench
    let marker := 0x80 ||| UInt8.ofNat number
    let bench ← bench.checkedWritePpu 0x2000 marker
    let (seen, bench) ← checkedSeenAt marker nametableBases bench
    return bench.check .mirroring (seen == aliases mode) (.marker mode seen)

def checkedOneScreenPages (bench : Bench) : Attempt Bench Bench := do
  let select (bench : Bench) (mode : Mirroring) :=
    bench.checkedAsk .mirroring "mirroring" (.setMirroring mode)
  let bench ← select bench .oneScreenLower
  let bench ← liftM (bench.checkedWritePpu 0x2000 0xAA)
  let bench ← select bench .oneScreenUpper
  let bench ← liftM (bench.checkedWritePpu 0x2000 0x55)
  let bench ← select bench .oneScreenLower
  let (got, bench) ← liftM (bench.checkedReadPpu 0x2000)
  return bench.check .mirroring (got == 0xAA) (.oneScreenOverlap got)

def checkedMirroring (bench : Bench) : Checked Bench := do
  let modes := bench.desc.mirroring.modes
  let bench ← modes.zipIdx.foldlM checkedMirroringMode bench
  if modes.contains .oneScreenLower && modes.contains .oneScreenUpper then
    checkedFinish bench.checkedOneScreenPages
  else return bench

namespace Sound

variable {bench : Bench}

theorem seenAt (h : bench.Sound) (marker : UInt8) (bases : List UInt16) :
    checkedSeenAt marker bases bench = .ok (Bench.seenAt marker bases bench) ∧
      (Bench.seenAt marker bases bench).2.Sound := by
  induction bases generalizing bench with
  | nil => exact ⟨rfl, h⟩
  | cons base rest ih =>
    obtain ⟨hread, h⟩ := h.readPpu base
    obtain ⟨hrest, h⟩ := ih h
    refine ⟨?_, h⟩
    rw [checkedSeenAt, hread, ok_bind]
    dsimp only
    rw [hrest]
    rfl

theorem mirroringMode (h : bench.Sound) (entry : Mirroring × Nat) :
    checkedMirroringMode bench entry = .ok (bench.mirroringMode entry) ∧
      (bench.mirroringMode entry).Sound := by
  obtain ⟨mode, number⟩ := entry
  obtain ⟨outcome, next, hchecked, hplain, h⟩ := h.exists_request (.setMirroring mode)
  rw [checkedMirroringMode, Bench.mirroringMode]
  dsimp only
  rw [hchecked, ok_bind, hplain]
  cases outcome with
  | error _ => exact ⟨rfl, h⟩
  | ok _ =>
    obtain ⟨hclear, h⟩ := foldlM h nametableBases.reverse fun _ h base _ => h.writePpu base 0
    obtain ⟨hmarker, h⟩ := Sound.writePpu h 0x2000 (0x80 ||| UInt8.ofNat number)
    obtain ⟨hseen, h⟩ := Sound.seenAt h (0x80 ||| UInt8.ofNat number) nametableBases
    refine ⟨?_, h⟩
    dsimp only
    rw [hclear, ok_bind, hmarker, ok_bind, hseen]
    rfl

theorem oneScreenPages (h : bench.Sound) :
    Follows Bench.Sound bench.checkedOneScreenPages bench.oneScreenPages := by
  refine (h.ask ..).bind fun bench h => ?_
  obtain ⟨hlower, h⟩ := h.writePpu 0x2000 0xAA
  refine .step hlower ((ask h ..).bind fun bench h => ?_)
  obtain ⟨hupper, h⟩ := h.writePpu 0x2000 0x55
  refine .step hupper ((ask h ..).bind fun bench h => ?_)
  obtain ⟨hread, h⟩ := h.readPpu 0x2000
  exact .step hread (.passes h)

theorem mirroring (h : bench.Sound) :
    bench.checkedMirroring = .ok bench.mirroring ∧ bench.mirroring.Sound := by
  obtain ⟨hmodes, hall⟩ := h.foldlM bench.desc.mirroring.modes.zipIdx
    fun _ h entry _ => mirroringMode h entry
  rw [checkedMirroring, Bench.mirroring, hmodes, ok_bind]
  split
  next => exact (oneScreenPages hall).finish
  next => exact ⟨rfl, hall⟩

end Sound

/-! ## IRQ -/

def checkedRepeat {α : Type} (f : α → Checked α) : Nat → α → Checked α
  | 0, value => return value
  | count + 1, value => do f (← checkedRepeat f count value)

def checkedAdvance (bench : Bench) (kind : IrqKind) (count : Nat) : Checked Bench :=
  bench.checkedOnConsole fun console =>
    match kind with
    | .scanline => checkedRepeat Console.checkedScanline count console
    | _ => return console.tick count

/-- Periods are numbers of 32 bits. -/
def checkedIrqChecks (kind : IrqKind) (bench : Bench) : Attempt Bench Bench := do
  let period := irqPeriod kind
  let bench ← bench.checkedAsk .irq "IRQ" (.configureIrq period true)
  let bench ← liftM (do bench.checkedAdvance kind (← sub period 1))
  let early := bench.irqLine
  let bench ← liftM (bench.checkedAdvance kind 1)
  let fired := bench.irqLine
  let bench := bench.check .irq (!early && fired) (.irqTiming period early fired)
  let bench ← bench.checkedAsk .irq "IRQ acknowledge" .acknowledgeIrq
  let bench := bench.check .irq (!bench.irqLine) .irqNotTakenBack
  let bench ← bench.checkedAsk .irq "IRQ" (.configureIrq period false)
  let bench ← liftM (do bench.checkedAdvance kind (← fit 0x1_0000_0000 (period * 2)))
  let bench := bench.check .irq (!bench.irqLine) .irqNotMasked
  let tooLong ← liftM (fit 0x1_0000_0000 (kind.maxPeriod + 1))
  let (outcome, bench) ← liftM (bench.checkedRequest (.configureIrq tooLong true))
  return bench.check .irq (refusedAs (.invalidIrqPeriod tooLong) outcome)
    (.irqPeriodAccepted tooLong)

def checkedIrq (bench : Bench) : Checked Bench :=
  match bench.desc.irq with
  | .none => return bench
  | kind => checkedFinish (checkedIrqChecks kind bench)

namespace Sound

variable {bench : Bench}

theorem scanlines {console : Console} (h : console.Sound) (count : Nat) :
    checkedRepeat Console.checkedScanline count console =
        .ok (count.repeat Console.scanline console) ∧
      (count.repeat Console.scanline console).Sound := by
  induction count with
  | zero => exact ⟨rfl, h⟩
  | succ count ih =>
    obtain ⟨hbefore, hnow⟩ := ih
    rw [checkedRepeat, hbefore, ok_bind]
    exact hnow.scanline

theorem advance (h : bench.Sound) (kind : IrqKind) (count : Nat) :
    bench.checkedAdvance kind count = .ok (bench.advance kind count) ∧
      (bench.advance kind count).Sound := by
  rw [checkedAdvance, checkedOnConsole, Bench.advance]
  cases kind with
  | scanline =>
    obtain ⟨hlines, hconsole⟩ := scanlines h.console count
    exact ⟨by rw [hlines]; rfl, h.onConsole hconsole⟩
  | none | cpuCycle => exact ⟨rfl, h.onConsole (h.console.tick count)⟩

theorem irqChecks (h : bench.Sound) {kind : IrqKind} (hkind : kind ≠ .none) :
    Follows Bench.Sound (checkedIrqChecks kind bench) (Bench.irqChecks kind bench) := by
  have hperiod : 1 ≤ irqPeriod kind ∧ irqPeriod kind * 2 < 0x1_0000_0000 ∧
      kind.maxPeriod + 1 < 0x1_0000_0000 := by
    cases kind with
    | none => exact absurd rfl hkind
    | scanline | cpuCycle => decide
  obtain ⟨hpos, htwice, hlimit⟩ := hperiod
  refine (h.ask ..).bind fun bench h => ?_
  obtain ⟨hearly, h⟩ := h.advance kind (irqPeriod kind - 1)
  refine .step (by rw [sub_eq hpos]; exact hearly) ?_
  obtain ⟨hfired, h⟩ := advance h kind 1
  refine .step hfired ((ask (h.check ..) ..).bind fun bench h => ?_)
  refine (ask (h.check ..) ..).bind fun bench h => ?_
  obtain ⟨hmasked, h⟩ := h.advance kind (irqPeriod kind * 2)
  refine .step (by rw [fit_eq htwice]; exact hmasked) (.step (fit_eq hlimit) ?_)
  obtain ⟨hrequest, h⟩ := request (h.check ..) (.configureIrq (kind.maxPeriod + 1) true)
  exact .step hrequest (.passes h)

theorem irq (h : bench.Sound) : bench.checkedIrq = .ok bench.irq ∧ bench.irq.Sound := by
  rw [checkedIrq, Bench.irq]
  cases hkind : bench.desc.irq with
  | none => exact ⟨rfl, h⟩
  | scanline | cpuCycle => exact (h.irqChecks (fun h => by cases h)).finish

end Sound

end Bench

/-! ## Whole runs -/

namespace Routine

def checkedPerform : Routine → Bench → Checked Bench
  | prgBanks => Bench.checkedPrgBanks
  | prgSize => Bench.checkedPrgSize
  | chrBanks => Bench.checkedChrBanks
  | chrLatches => Bench.checkedChrLatches
  | wram => Bench.checkedWram
  | mirroring => Bench.checkedMirroring
  | irq => Bench.checkedIrq

theorem followed (routine : Routine) {bench : Bench} (h : bench.Sound) :
    routine.checkedPerform bench = .ok (routine.perform bench) ∧ (routine.perform bench).Sound := by
  cases routine with
  | prgBanks => exact h.prgBanks
  | prgSize => exact h.prgSize
  | chrBanks => exact h.chrBanks
  | chrLatches => exact h.chrLatches
  | wram => exact h.wram
  | mirroring => exact h.mirroring
  | irq => exact h.irq

end Routine

namespace Bench

def checkedRun (session : Session Console) : Checked Bench := do
  let (_, bench) ← (start session).checkedRequest .bringUp
  let bench ← (Routine.plan bench.desc).foldlM (fun bench routine => routine.checkedPerform bench)
    bench
  return (← bench.checkedRequest .bringUp).2

theorem run_followed {session : Session Console} (h : session.Sound) :
    checkedRun session = .ok (run session) ∧ (run session).Sound := by
  have hstart : (start session).Sound := h
  obtain ⟨hup, h⟩ := hstart.request .bringUp
  obtain ⟨hroutines, h⟩ := Sound.foldlM h (Routine.plan ((start session).request .bringUp).2.desc)
    fun _ h routine _ => routine.followed h
  obtain ⟨hback, h⟩ := Sound.request h .bringUp
  refine ⟨?_, h⟩
  rw [checkedRun, hup, ok_bind]
  dsimp only
  rw [hroutines, ok_bind, hback]
  rfl

end Bench

end NesCartridge
