import CertConsole.Text.Utf8

/-!
# Certificates

A certificate is the sequence of lines that are sent to the device. Its content is opaque: a text
is only cut into lines, and no character of a line is changed.
-/
namespace CertConsole

/-- An ordered sequence of certificate lines. -/
structure Certificate where
  /-- The lines in the order of the file. -/
  lines : List String
  deriving DecidableEq, Repr

namespace Certificate

/-- A carriage return and a line feed each end a line. -/
def isLineEnd (char : Char) : Bool := char == '\r' || char == '\n'

/-- The lines of a text: what stands between line ends, where it is not empty. A carriage return
followed by a line feed so ends one line, and blank lines vanish. -/
def ofText (text : String) : Certificate where
  lines := ((text.toList.splitOnP isLineEnd).filter (! ·.isEmpty)).map String.ofList

/-- The number of lines. -/
def lineCount (certificate : Certificate) : Nat := certificate.lines.length

/-- There is nothing to send. -/
def isEmpty (certificate : Certificate) : Bool := certificate.lines.isEmpty

/-- The size in bytes of what the device stores: each line with one line feed. -/
def storedSize (certificate : Certificate) : Nat :=
  certificate.lines.foldr (fun line size => (Utf8.encode line.toList).length + 1 + size) 0

/-- The size of the buffer that a device loads a stored certificate into. A certificate has to be
smaller than it. -/
def capacity : Nat := 3072

end Certificate

end CertConsole
