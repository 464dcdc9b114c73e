/-
  NesCartridge.Session

  A controller at work on a bus: accepted requests become writes, refused ones leave everything
  as it was, and an interrupt handler leaves the select register as it found it.
-/
import NesCartridge.Controller

namespace NesCartridge

structure Session (β : Type) where
  controller : Controller
  bus : β

namespace Session

variable {β : Type} [Bus β]

/-- A controller that has done nothing yet. -/
def start (board : Board) (bus : β) : Session β :=
  { controller := { board }, bus }

/-- Ask the controller for something. -/
def request (session : Session β) (req : Request) : Except MapperError Unit × Session β :=
  match session.controller.perform req with
  | .ok (controller, writes) =>
    (.ok (), { controller, bus := Bus.writeAll session.bus writes })
  | .error err => (.error err, session)

/-- Run `handler` the way an interrupt comes in between two writes of the program: what it
selected is undone at the end, so that the data half of a pair still meets the register that
was named before. -/
def runHandler {α : Type} (session : Session β) (handler : Session β → α × Session β) :
    α × Session β :=
  let saved := session.controller.select
  let (result, after) := handler session
  let (controller, writes) := after.controller.restoreSelect saved
  (result, { controller, bus := Bus.writeAll after.bus writes })

end Session

end NesCartridge
