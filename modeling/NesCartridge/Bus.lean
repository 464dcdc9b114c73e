/-
  NesCartridge.Bus

  The CPU side of a console as the controller and the diagnostics use it, and a bus without a
  console that keeps a log of what was written.
-/
import NesCartridge.Chip.Target

namespace NesCartridge

/-- CPU address space with a cartridge in it. Reads have no side effects. -/
class Bus (β : Type) where
  read : β → UInt16 → UInt8
  write : β → UInt16 → UInt8 → β
  /-- Let CPU cycles pass. -/
  tick : β → Nat → β := fun bus _ => bus
  /-- Level of the cartridge's IRQ line. -/
  irq : β → Bool := fun _ => false

/-- One byte written to one address. -/
structure RegisterWrite where
  addr : UInt16
  data : UInt8
  deriving DecidableEq

namespace Bus

variable {β : Type} [Bus β]

/-- Make writes in order. -/
def writeAll (bus : β) (writes : List RegisterWrite) : β :=
  writes.foldl (fun bus w => write bus w.addr w.data) bus

@[simp] theorem writeAll_nil (bus : β) : writeAll bus [] = bus := rfl

@[simp] theorem writeAll_cons (bus : β) (w : RegisterWrite) (rest : List RegisterWrite) :
    writeAll bus (w :: rest) = writeAll (write bus w.addr w.data) rest := rfl

theorem writeAll_append (bus : β) (xs ys : List RegisterWrite) :
    writeAll bus (xs ++ ys) = writeAll (writeAll bus xs) ys := by
  simp [writeAll, List.foldl_append]

end Bus

/-! ## A bus with nothing attached -/

/-- The writes made so far, oldest first. -/
structure BusLog where
  writes : Array RegisterWrite := #[]

instance : Bus BusLog where
  read _ addr := openBus addr
  write log addr data := { log with writes := log.writes.push ⟨addr, data⟩ }

end NesCartridge
