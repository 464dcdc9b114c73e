/-
  NesCartridge.Proofs.Script

  Runs of a session: requests to the controller and accesses to the console, one after another,
  with interrupt handlers in between that are runs themselves. A run leaves a history of what
  became of its requests. Main statement: what every action keeps, and what the way out of a
  handler keeps, a whole run keeps (`Script.run_preserves_trace`, `Script.run_preserves`).
-/
import NesCartridge.Console
import NesCartridge.Session

namespace NesCartridge

/-! ## Histories -/

/-- A request and what became of it. -/
structure Event where
  request : Request
  outcome : Except MapperError Unit

/-- The requests made so far, oldest first. -/
abbrev History := List Event

namespace History

variable {α : Type}

/-- The choice in force after an event. Refused requests choose nothing, and bringing the board
up goes back to `initial`. -/
def choose (pick : Request → Option α) (initial current : α) (event : Event) : α :=
  match event.outcome, event.request with
  | .error _, _ => current
  | .ok (), .bringUp => initial
  | .ok (), request => (pick request).getD current

/-- The last accepted choice since the board was last brought up, or `initial` without one. -/
def last (history : History) (pick : Request → Option α) (initial : α) : α :=
  history.foldl (choose pick initial) initial

theorem last_append (past : History) (event : Event) (pick : Request → Option α) (initial : α) :
    last (past ++ [event]) pick initial =
      choose pick initial (last past pick initial) event := by
  rw [last, List.foldl_append]
  rfl

/-- Bank last accepted for a PRG window. -/
def prgBank (history : History) (window : Nat) : Nat :=
  history.last (fun
    | .selectPrg number bank => if number = window then some bank else none
    | _ => none) 0

/-- Bank last accepted for a CHR window. -/
def chrBank (history : History) (window : Nat) : Nat :=
  history.last (fun
    | .selectChr number bank => if number = window then some bank else none
    | _ => none) 0

/-- Mirroring last accepted. A board with one-screen modes only starts with the lower screen. -/
def mirroring (history : History) (board : Board) : Mirroring :=
  history.last (fun
    | .setMirroring mode => some mode
    | _ => none) (if board.descriptor.mirroring = .oneScreen then .oneScreenLower else .vertical)

/-- Access to the work RAM last accepted. -/
def wramMode (history : History) : WramMode :=
  history.last (fun
    | .setWram mode => some mode
    | _ => none) .readWrite

end History

/-- The latest of the values that some entries of a list have. -/
def latest? {α β : Type} (value? : α → Option β) (entries : List α) : Option β :=
  (entries.filterMap value?).getLast?

theorem latest?_append {α β : Type} (value? : α → Option β) (entries : List α) (entry : α) :
    latest? value? (entries ++ [entry]) = (value? entry).or (latest? value? entries) := by
  rw [latest?, latest?, List.filterMap_append, List.getLast?_append]
  cases hvalue : value? entry with
  | none => simp [hvalue]
  | some value => simp [hvalue]

/-! ## Actions -/

/-- Something that happens to a console with a controller on it. -/
inductive Action where
  | request (req : Request)
  | readCpu (addr : UInt16)
  | writeCpu (addr : UInt16) (data : UInt8)
  | readPpu (addr : UInt16)
  | writePpu (addr : UInt16) (data : UInt8)
  | tick (cycles : Nat)

/-- Make a request and note what becomes of it. -/
def Request.perform {β : Type} [Bus β] (req : Request) (session : Session β) :
    History × Session β :=
  let (outcome, after) := session.request req
  ([⟨req, outcome⟩], after)

namespace Action

def perform (action : Action) (session : Session Console) : History × Session Console :=
  match action with
  | request req => req.perform session
  | readCpu _ => ([], session)
  | writeCpu addr data => ([], { session with bus := session.bus.writeCpu addr data })
  | readPpu addr => ([], { session with bus := (session.bus.readPpu addr).2 })
  | writePpu addr data => ([], { session with bus := session.bus.writePpu addr data })
  | tick cycles => ([], { session with bus := session.bus.tick cycles })

/-- The action writes no mapper register behind the controller's back: CPU writes stay below
`$5000` or in the work RAM. -/
def SparesRegisters : Action → Prop
  | writeCpu addr _ => addr.toNat < 0x5000 ∨ inWram addr = true
  | _ => True

/-- CPU writes of the action stay below the PRG memory. -/
def StaysLow : Action → Prop
  | writeCpu addr _ => addr.toNat < 0x8000
  | _ => True

/-- The action is no PPU write to pattern memory. -/
def SparesPatterns : Action → Prop
  | writePpu addr _ => 0x2000 ≤ addr.toNat % 0x4000
  | _ => True

end Action

/-! ## Scripts -/

/-- Actions in a row, any of which may be interrupted by a handler. -/
inductive Script (α : Type) where
  | done
  | act (action : α) (rest : Script α)
  | handler (body rest : Script α)

namespace Script

variable {α β : Type} [Bus β]

/-- The actions in the order in which they happen, those of a handler in its place. -/
def actions : Script α → List α
  | done => []
  | act action rest => action :: rest.actions
  | handler body rest => body.actions ++ rest.actions

/-- Every action of the script and of its handlers satisfies `p`. -/
def Forall (p : α → Prop) : Script α → Prop
  | done => True
  | act action rest => p action ∧ rest.Forall p
  | handler body rest => body.Forall p ∧ rest.Forall p

theorem Forall.mono {p q : α → Prop} (h : ∀ action, p action → q action) {script : Script α}
    (hp : script.Forall p) : script.Forall q := by
  induction script with
  | done => exact trivial
  | act action rest ih => exact ⟨h action hp.1, ih hp.2⟩
  | handler body rest ihbody ihrest => exact ⟨ihbody hp.1, ihrest hp.2⟩

theorem Forall.and {p q : α → Prop} {script : Script α} (hp : script.Forall p)
    (hq : script.Forall q) : script.Forall fun action => p action ∧ q action := by
  induction script with
  | done => exact trivial
  | act action rest ih => exact ⟨⟨hp.1, hq.1⟩, ih hp.2 hq.2⟩
  | handler body rest ihbody ihrest => exact ⟨ihbody hp.1 hq.1, ihrest hp.2 hq.2⟩

theorem forall_true (script : Script α) : script.Forall fun _ => True := by
  induction script with
  | done => exact trivial
  | act action rest ih => exact ⟨trivial, ih⟩
  | handler body rest ihbody ihrest => exact ⟨ihbody, ihrest⟩

/-- Play a script on a session. Handlers run the way an interrupt does. -/
def run (perform : α → Session β → History × Session β) :
    Script α → Session β → History × Session β
  | done, session => ([], session)
  | act action rest, session =>
    let (now, session) := perform action session
    let (later, session) := rest.run perform session
    (now ++ later, session)
  | handler body rest, session =>
    let (inside, session) := session.runHandler fun session => body.run perform session
    let (later, session) := rest.run perform session
    (inside ++ later, session)

/-- Every action with the session that it meets, in the order in which they happen. -/
def steps (perform : α → Session β → History × Session β) :
    Script α → Session β → List (Session β × α)
  | done, _ => []
  | act action rest, session =>
    (session, action) :: rest.steps perform (perform action session).2
  | handler body rest, session =>
    let after := (session.runHandler fun session => body.run perform session).2
    body.steps perform session ++ rest.steps perform after

end Script

/-- What a handler's end does: the select register gets `saved` back. -/
def Session.restore {β : Type} [Bus β] (session : Session β) (saved : UInt8) : Session β :=
  let (controller, writes) := session.controller.restoreSelect saved
  { controller, bus := Bus.writeAll session.bus writes }

/-- On boards without a select register nothing is given back. -/
theorem Session.restore_eq_self {β : Type} [Bus β] {session : Session β}
    (h : session.controller.board.selectAddr? = none) (saved : UInt8) :
    session.restore saved = session := by
  rw [restore, Controller.restoreSelect, h]
  rfl

theorem Session.runHandler_eq {α β : Type} [Bus β] (session : Session β)
    (handler : Session β → α × Session β) :
    session.runHandler handler =
      ((handler session).1, (handler session).2.restore session.controller.select) := rfl

namespace Script

variable {α β : Type} [Bus β] {perform : α → Session β → History × Session β}

theorem run_act (action : α) (rest : Script α) (session : Session β) :
    (act action rest).run perform session =
      ((perform action session).1 ++ (rest.run perform (perform action session).2).1,
        (rest.run perform (perform action session).2).2) := rfl

theorem run_handler (body rest : Script α) (session : Session β) :
    (handler body rest).run perform session =
      let inside := body.run perform session
      let later := rest.run perform (inside.2.restore session.controller.select)
      (inside.1 ++ later.1, later.2) := rfl

/-- A relation between the actions so far, each with the session that it met, the history and the
session that every action keeps, and that giving back the select byte of an earlier session keeps,
is kept by a run. -/
theorem run_preserves_steps {p : α → Prop}
    (Inv : List (Session β × α) → History → Session β → Prop)
    (hact : ∀ action, p action → ∀ made past session, Inv made past session →
      Inv (made ++ [(session, action)]) (past ++ (perform action session).1)
        (perform action session).2)
    (hrestore : ∀ made made' past past' before after, Inv made past before → Inv made' past' after →
      Inv made' past' (after.restore before.controller.select))
    {script : Script α} (hp : script.Forall p) (made : List (Session β × α)) (past : History)
    (session : Session β) (h : Inv made past session) :
    Inv (made ++ script.steps perform session) (past ++ (script.run perform session).1)
      (script.run perform session).2 := by
  -- A handler's body starts from the state that its end goes back to, so the two hypotheses of the
  -- induction meet there, with the actions and the history of the body in between.
  induction script generalizing made past session with
  | done => simpa [run, steps] using h
  | act action rest ih =>
    have hnow := hact action hp.1 made past session h
    rw [run_act, steps, ← List.append_assoc, List.append_cons]
    exact ih hp.2 _ _ _ hnow
  | handler body rest ihbody ihrest =>
    have hinside := ihbody hp.1 _ _ _ h
    have hback := hrestore made _ past _ session _ h hinside
    have hlater := ihrest hp.2 _ _ _ hback
    rw [run_handler, steps, ← List.append_assoc, ← List.append_assoc]
    exact hlater

theorem map_steps (script : Script α) (session : Session β) :
    (script.steps perform session).map Prod.snd = script.actions := by
  induction script generalizing session with
  | done => rfl
  | act action rest ih => rw [steps, actions, List.map_cons, ih]
  | handler body rest ihbody ihrest => rw [steps, actions, List.map_append, ihbody, ihrest]

/-- The same for a relation that does not look at the sessions that the actions met. -/
theorem run_preserves_trace {p : α → Prop} (Inv : List α → History → Session β → Prop)
    (hact : ∀ action, p action → ∀ made past session, Inv made past session →
      Inv (made ++ [action]) (past ++ (perform action session).1) (perform action session).2)
    (hrestore : ∀ made made' past past' before after, Inv made past before → Inv made' past' after →
      Inv made' past' (after.restore before.controller.select))
    {script : Script α} (hp : script.Forall p) (made : List α) (past : History)
    (session : Session β) (h : Inv made past session) :
    Inv (made ++ script.actions) (past ++ (script.run perform session).1)
      (script.run perform session).2 := by
  have hnow : ∀ action, p action → ∀ (met : List (Session β × α)) past session,
      Inv (made ++ met.map Prod.snd) past session →
        Inv (made ++ (met ++ [(session, action)]).map Prod.snd)
          (past ++ (perform action session).1) (perform action session).2 := by
    intro action haction met past session hmet
    rw [List.map_append, ← List.append_assoc]
    exact hact action haction _ _ _ hmet
  have hrun := run_preserves_steps (fun met => Inv (made ++ met.map Prod.snd)) hnow
    (fun _ _ => hrestore _ _) hp [] past session (by simpa using h)
  rwa [List.nil_append, map_steps] at hrun

/-- The same for a relation that does not look at the actions themselves. -/
theorem run_preserves {p : α → Prop} (Inv : History → Session β → Prop)
    (hact : ∀ action, p action → ∀ past session, Inv past session →
      Inv (past ++ (perform action session).1) (perform action session).2)
    (hrestore : ∀ past past' before after, Inv past before → Inv past' after →
      Inv past' (after.restore before.controller.select))
    {script : Script α} (hp : script.Forall p) (past : History) (session : Session β)
    (h : Inv past session) :
    Inv (past ++ (script.run perform session).1) (script.run perform session).2 :=
  run_preserves_trace (fun _ => Inv) (fun action haction _ => hact action haction)
    (fun _ _ => hrestore) hp [] past session h

end Script

/-! ## What every write keeps -/

section Writes

variable {β : Type} [Bus β] {Q : β → Prop}
  (hwrite : ∀ bus addr data, Q bus → Q (Bus.write bus addr data))

include hwrite

theorem Bus.writeAll_keeps (writes : List RegisterWrite) {bus : β} (h : Q bus) :
    Q (Bus.writeAll bus writes) := by
  induction writes generalizing bus with
  | nil => exact h
  | cons w rest ih => exact ih (hwrite bus w.addr w.data h)

/-- A controller reaches the bus by writes alone. -/
theorem Session.request_keeps (req : Request) {session : Session β} (h : Q session.bus) :
    Q (session.request req).2.bus := by
  rw [request]
  split
  next => exact Bus.writeAll_keeps hwrite _ h
  next => exact h

theorem Session.restore_keeps (saved : UInt8) {session : Session β} (h : Q session.bus) :
    Q (session.restore saved).bus :=
  Bus.writeAll_keeps hwrite _ h

end Writes

/-- What every CPU write keeps of the console, and every other access, a whole run keeps. -/
theorem Script.run_keeps {p : Action → Prop} {Q : Console → Prop}
    (hwrite : ∀ console addr data, Q console → Q (console.writeCpu addr data))
    (haccess : ∀ action, p action → (∀ req, action ≠ .request req) → ∀ session,
      Q session.bus → Q (action.perform session).2.bus)
    {script : Script Action} (hscript : script.Forall p) {session : Session Console}
    (h : Q session.bus) : Q (script.run Action.perform session).2.bus := by
  refine Script.run_preserves (fun _ now => Q now.bus) (fun action haction _ now hnow => ?_)
    (fun _ _ _ _ _ hafter => Session.restore_keeps hwrite _ hafter) hscript [] session h
  cases action with
  | request req => exact Session.request_keeps hwrite req hnow
  | readCpu | writeCpu | readPpu | writePpu | tick =>
    exact haccess _ haction (fun req hreq => by cases hreq) now hnow

end NesCartridge
