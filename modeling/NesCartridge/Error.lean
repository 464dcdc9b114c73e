/-
  NesCartridge.Error

  Why the registry or the controller refuses a request, with the wording and the one-byte
  result code of each cause.
-/
import NesCartridge.Mirroring

namespace NesCartridge

/-- An optional capability of a board. -/
inductive Feature where
  | irq
  | wram
  | wramProtect
  deriving DecidableEq

def Feature.name : Feature → String
  | irq => "IRQ counter"
  | wram => "WRAM control"
  | wramProtect => "WRAM write protect"

/-- A refused request. -/
inductive MapperError where
  | unknownMapper (number : Nat)
  | unsupportedMode (mode : Mirroring)
  | notSupported (feature : Feature)
  | invalidWindow (window count : Nat)
  | bankOutOfRange (bank max : Nat)
  | invalidIrqPeriod (period : Nat)
  /-- The board has not been brought up yet. -/
  | notReady
  deriving DecidableEq

namespace MapperError

def message : MapperError → String
  | unknownMapper number => s!"unknown mapper {number}"
  | unsupportedMode mode => s!"mirroring mode {mode.name} is not supported by this board"
  | notSupported feature => s!"{feature.name} is not present on this board"
  | invalidWindow window count => s!"window {window} does not exist (board has {count})"
  | bankOutOfRange bank max => s!"bank {bank} does not fit the register (max {max})"
  | invalidIrqPeriod period => s!"IRQ period {period} is out of range"
  | notReady => "mapper has not been initialized"

/-- Result code of a refusal; zero stands for success. -/
def code : MapperError → Nat
  | unknownMapper _ => 1
  | unsupportedMode _ => 2
  | notSupported _ => 3
  | invalidWindow _ _ => 4
  | bankOutOfRange _ _ => 5
  | invalidIrqPeriod _ => 6
  | notReady => 7

end MapperError

end NesCartridge
