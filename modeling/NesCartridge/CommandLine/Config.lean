/-
  NesCartridge.CommandLine.Config

  What the command line asks for. Flags, size options and words may be mixed; the first word is
  the command, and words that it does not need are ignored.
-/
import NesCartridge.CommandLine.Number
import NesCartridge.Memory.Banked

namespace NesCartridge.CommandLine

/-- The usage text. -/
def usage : String :=
  "\n".intercalate
    ["Usage: cartprobe [-v|--verbose] [--no-color] <command>",
      "",
      "Commands:",
      "  list                                 Print the mapper registry",
      "  probe <id> [--prg KIB] [--chr KIB]   Run bank diagnostics on a synthesized image",
      "  inspect <file.nes>                   Show the header and register map of a ROM"]

inductive ConfigError where
  | missingCommand
  | unknownCommand (word : String)
  | unknownOption (argument : String)
  | missingValue (what : String)
  | invalidNumber (text : String)
  deriving DecidableEq

def ConfigError.message : ConfigError → String
  | missingCommand => "missing command"
  | unknownCommand word => s!"unknown command `{word}`"
  | unknownOption argument => s!"unknown option `{argument}`"
  | missingValue what => s!"`{what}` needs a value"
  | invalidNumber text => s!"`{text}` is not a number"

inductive Command where
  | list
  | probe (mapper : Nat) (prgKib chrKib : Option Nat)
  | inspect (path : String)
  deriving DecidableEq

structure Config where
  command : Command
  verbose : Bool
  color : Bool
  deriving DecidableEq

/-- Level below which log lines are dropped. -/
def Config.logLevel (config : Config) : String :=
  if config.verbose then "debug" else "warn"

/-- A number that does not fit is refused with its text. -/
def readNumber (limit : Nat) (text : String) : Except ConfigError Nat :=
  match Number.read? limit text with
  | some n => .ok n
  | none => .error (.invalidNumber text)

/-! ## Arguments -/

/-- What an argument is by itself. -/
inductive Argument where
  | verbose
  | noColor
  | prgSize
  | chrSize
  | unknown
  | word
  deriving DecidableEq

/-- A lone dash is a word; any other argument that starts with a dash is an option. -/
def Argument.of (text : String) : Argument :=
  if text = "-v" ∨ text = "--verbose" then .verbose
  else if text = "--no-color" then .noColor
  else if text = "--prg" then .prgSize
  else if text = "--chr" then .chrSize
  else
    match text.toList with
    | '-' :: _ :: _ => .unknown
    | _ => .word

/-- What has been read of the arguments. -/
structure Options where
  verbose : Bool := false
  color : Bool := true
  prgKib : Option Nat := none
  chrKib : Option Nat := none
  words : List String := []
  deriving DecidableEq

/-- Read arguments from left to right; a size option takes the argument after it, whatever that
looks like. -/
def Options.scan : List String → Options → Except ConfigError Options
  | [], options => .ok options
  | text :: rest, options =>
    match Argument.of text with
    | .verbose => scan rest { options with verbose := true }
    | .noColor => scan rest { options with color := false }
    | .prgSize =>
      match rest with
      | [] => .error (.missingValue text)
      | value :: rest => do
        let kib ← readNumber sizeLimit value
        scan rest { options with prgKib := some kib }
    | .chrSize =>
      match rest with
      | [] => .error (.missingValue text)
      | value :: rest => do
        let kib ← readNumber sizeLimit value
        scan rest { options with chrKib := some kib }
    | .unknown => .error (.unknownOption text)
    | .word => scan rest { options with words := options.words ++ [text] }

/-- The command that the words spell. Mapper numbers are bytes. -/
def Options.command (options : Options) : Except ConfigError Command :=
  match options.words with
  | [] => .error .missingCommand
  | "list" :: _ => .ok .list
  | "probe" :: arguments =>
    match arguments with
    | [] => .error (.missingValue "probe")
    | number :: _ => do
      let mapper ← readNumber 256 number
      return .probe mapper options.prgKib options.chrKib
  | "inspect" :: arguments =>
    match arguments with
    | [] => .error (.missingValue "inspect")
    | path :: _ => .ok (.inspect path)
  | other :: _ => .error (.unknownCommand other)

/-- The configuration that some arguments ask for. -/
def Config.ofArgs (arguments : List String) : Except ConfigError Config := do
  -- A bad option is reported before a bad command, wherever it stands.
  let options ← Options.scan arguments {}
  let command ← options.command
  return { command, verbose := options.verbose, color := options.color }

end NesCartridge.CommandLine
