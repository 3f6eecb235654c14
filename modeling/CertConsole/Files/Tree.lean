import CertConsole.Files
import CertConsole.Text.Utf8

/-!
# File trees

A file tree holds what stands at some absolute locations, and a location that relative paths start
from. A path is walked part by part: every part but a name stays or goes up, and a part can only
follow a directory, so a path may not go through a file and may not end in a slash behind one.
-/
namespace CertConsole

/-- The names that lead from the root to an entry. -/
abbrev Location := List String

/-- What stands at a location. -/
inductive Entry where
  /-- A file with its content. -/
  | file (content : List UInt8)
  /-- A directory. -/
  | directory
  /-- A terminal, such as a serial port. It has no content of its own. -/
  | terminal
  deriving DecidableEq, Repr

/-- Entries by location. -/
structure FileTree where
  /-- The entries. Directories above an entry need not be listed. -/
  entries : List (Location × Entry) := []
  /-- The directory that relative paths start from. -/
  workingDirectory : Location := []
  deriving DecidableEq, Repr

namespace FileTree

/-- The longest path in bytes. -/
def longestPath : Nat := 4095

/-- The longest name in bytes. -/
def longestName : Nat := 255

/-- What stands at a location. There is a directory wherever something stands below. -/
def entryAt? (tree : FileTree) (location : Location) : Option Entry :=
  match tree.entries.lookup location with
  | some entry => some entry
  | none =>
    if (tree.workingDirectory :: tree.entries.map (·.1)).any location.isPrefixOf
    then some .directory
    else none

/-- Where a part of a path leads from a directory. Going up from the root stays there. -/
def follow (location : Location) (part : String) : Except PathError Location :=
  if part = "" ∨ part = "." then .ok location
  else if part = ".." then .ok location.dropLast
  else if longestName < part.utf8ByteSize then .error .nameTooLong
  else .ok (location ++ [part])

/-- Walk the parts of a path from a location. -/
def walk (tree : FileTree) (location : Location) : List String → Except PathError Entry
  | [] =>
    match tree.entryAt? location with
    | some entry => .ok entry
    | none => .error .notFound
  | part :: rest =>
    match tree.entryAt? location with
    | some .directory =>
      match follow location part with
      | .ok next => walk tree next rest
      | .error error => .error error
    | some _ => .error .notDirectory
    | none => .error .notFound

/-- What a path leads to. -/
def resolve (tree : FileTree) (path : String) : Except PathError Entry :=
  let text := path.toList
  if text.contains '\x00' then .error .nulInName
  else if text = [] then .error .notFound
  else if longestPath < path.utf8ByteSize then .error .nameTooLong
  else
    let start := if text.head? = some '/' then [] else tree.workingDirectory
    walk tree start ((text.splitOnP (· == '/')).map String.ofList)

/-- The text of the file at a path. -/
def readText (tree : FileTree) (path : String) : Except FileError String :=
  match tree.resolve path with
  | .ok (.file content) =>
    match Utf8.decode? content with
    | some text => .ok (String.ofList text)
    | none => .error .notText
  | .ok .terminal => .ok ""
  | .ok .directory => .error (.path .isDirectory)
  | .error error => .error (.path error)

/-- A tree as a file system. -/
def files (tree : FileTree) : Files := ⟨tree.readText⟩

/-- Whether the path can be opened as a serial port. -/
def openTerminal (tree : FileTree) (path : String) : Except OpenError Unit :=
  match tree.resolve path with
  | .ok .terminal => .ok ()
  | .ok .directory => .error (.path .isDirectory)
  | .ok (.file _) => .error .notTerminal
  | .error error => .error (.path error)

end FileTree

end CertConsole
