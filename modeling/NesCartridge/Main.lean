/-
  NesCartridge.Main

  Entry point: reads the file that the arguments name, and prints what the program answers.
-/
import NesCartridge.CommandLine

open NesCartridge

/-- Number of a system error. Some calls report it with its sign turned. -/
def errorNumber (code : UInt32) : Nat :=
  if code.toNat < 0x8000_0000 then code.toNat else 0x1_0000_0000 - code.toNat

/-- Why a file could not be read. -/
def fileError (err : IO.Error) : FileError :=
  match err with
  | .noFileOrDirectory _ _ _ => .notFound
  | .inappropriateType _ code _ => if errorNumber code = 20 then .notDirectory else .isDirectory
  | .invalidArgument _ code _ =>
    if errorNumber code = 36 then .nameTooLong else .other (toString err)
  | _ => .other (toString err)

/-- Contents of a file on disk. -/
def readDisk (path : String) : IO (Except FileError Memory) := do
  try
    return .ok (← IO.FS.readBinFile path).data
  catch err =>
    return .error (fileError err)

def main (arguments : List String) : IO UInt32 := do
  let contents ← match CommandLine.fileToRead? arguments with
    | some path => readDisk path
    | none => pure (.error .notFound)
  let outcome := CommandLine.run arguments fun _ => contents
  IO.print outcome.stdout
  IO.eprint outcome.stderr
  return UInt32.ofNat outcome.exitCode
