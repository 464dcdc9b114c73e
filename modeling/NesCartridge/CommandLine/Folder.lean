/-
  NesCartridge.CommandLine.Folder

  A working folder held in memory, with files and folders at any depth, and the path rules of a
  disk: a path is followed name by name, and the first name that cannot be followed decides the
  error.
-/
import NesCartridge.Header

namespace NesCartridge.CommandLine

inductive FolderEntry where
  | file (contents : Memory)
  | folder

/-- Names on the way from the working folder to an entry. -/
abbrev Location := List String

/-- The entries put into the folder, the latest first. -/
structure Folder where
  entries : List (Location × FolderEntry) := []

namespace Folder

/-- A path is shorter than this many bytes. -/
def pathLimit : Nat := 4096

/-- Bytes that a single name may have. -/
def longestName : Nat := 255

/-- An empty name or a single dot stays in the same folder. -/
def isStay (name : String) : Bool :=
  name = "" || name = "."

/-- Location that a path without `..` leads to. -/
def locate (path : String) : Location :=
  (path.splitOn "/").filter fun name => !isStay name

/-- Put an entry at the end of a path, in place of any that was there. -/
def put (folder : Folder) (path : String) (entry : FolderEntry) : Folder :=
  { entries := (locate path, entry) :: folder.entries }

/-- What lies at a location. The folders on the way to an entry are there without being put. -/
def find? (folder : Folder) (location : Location) : Option FolderEntry :=
  match folder.entries.lookup location with
  | some entry => some entry
  | none =>
    if folder.entries.any fun (other, _) => location.isPrefixOf other then some .folder else none

/-! ## Following a path -/

/-- Where a path has led so far. -/
inductive Place where
  | folder (location : Location)
  /-- A folder that the working folder lies in, about which nothing is known. -/
  | above
  | file (contents : Memory)

/-- The folder that a folder lies in. -/
def parent : Location → Place
  | [] => .above
  | location => .folder location.dropLast

/-- One more name of a path. -/
def enter (folder : Folder) (place : Place) (name : String) : Except FileError Place :=
  match place with
  -- Not even an empty name leads on from a file: a slash at the end asks for a folder.
  | .file _ => .error .notDirectory
  | .above =>
    if isStay name || name = ".." then .ok .above
    else if longestName < name.utf8ByteSize then .error .nameTooLong
    else .error .notFound
  | .folder location =>
    if isStay name then .ok place
    else if name = ".." then .ok (parent location)
    else if longestName < name.utf8ByteSize then .error .nameTooLong
    else
      match folder.find? (location ++ [name]) with
      | some (.file contents) => .ok (.file contents)
      | some .folder => .ok (.folder (location ++ [name]))
      | none => .error .notFound

/-- Contents of the file at a path. -/
def read (folder : Folder) (path : String) : Except FileError Memory := do
  if path = "" then throw .notFound
  -- The path as a whole is measured before any name of it.
  if pathLimit ≤ path.utf8ByteSize then throw .nameTooLong
  let start : Place := if path.front = '/' then .above else .folder []
  match ← (path.splitOn "/").foldlM folder.enter start with
  | .file contents => return contents
  | _ => throw .isDirectory

end Folder

end NesCartridge.CommandLine
