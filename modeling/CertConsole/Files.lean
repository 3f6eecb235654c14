import CertConsole.Certificate
import CertConsole.Fault

/-!
# Files

All that an upload needs of a file system is the text of the file that a path leads to, or why there
is none.
-/
namespace CertConsole

/-- What the paths of a file system lead to. -/
structure Files where
  /-- The text of the file at a path. -/
  read : String → Except FileError String

/-- Something is at the path, whether it can be read or not. -/
def Files.hasEntry (files : Files) (path : String) : Bool :=
  match files.read path with
  | .ok _ => true
  | .error cause => ! cause.isAbsence

/-- The files of a list of paths, each with what a reader found there. There is nothing else. -/
def Files.ofList (found : List (String × Except FileError String)) : Files where
  read path := (found.lookup path).getD (.error (.path .notFound))

/-- The certificate in a file. -/
def Certificate.ofFile (files : Files) (path : String) : Except Fault Certificate :=
  match files.read path with
  | .ok text => .ok (.ofText text)
  | .error cause => .error (.certificate path cause)

end CertConsole
