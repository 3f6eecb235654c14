import CertConsole.Text.Blank
import CertConsole.Text.Phrase
import CertConsole.Text.Utf8

/-!
# Console replies

What the device prints is read line by line. `decodeLine` makes text of the bytes of a line, and
the other functions say what a line tells about the upload. Case matters in every phrase.
-/
namespace CertConsole.Reply

open CertConsole.Text

/-- The text of a console line. Bytes that are not text are dropped, so that line noise cannot
break up a phrase, and so are blanks at both ends. -/
def decodeLine (bytes : List UInt8) : String := String.ofList (trim (Utf8.decodeLossy bytes))

/-- The line acknowledges the begin marker. -/
def acceptsUpload (line : String) : Bool := mentions line "ready to receive"

/-- The line reports that the upload cannot start. It has to name both an error and what failed,
so that other messages about errors do not end an upload. -/
def refusesUpload (line : String) : Bool :=
  (mentions line "Error" || mentions line "error") &&
    (mentions line "upload" || mentions line "opening")

/-- The line confirms that the certificate was saved. -/
def confirmsSave (line : String) : Bool := mentions line "certificate saved"

/-- The CA field of a line, if it has one: whether a CA certificate is stored. -/
def caField? (line : String) : Option Bool :=
  if mentions line "CA:" then some (mentions line "CA: YES") else none

end CertConsole.Reply
