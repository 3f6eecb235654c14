import CertConsole.Console.Command
import CertConsole.Fault

/-!
# The far end of the line

A responder is a console that answers commands by a script. It collects the bytes that arrive, cuts
them into commands at carriage returns, and answers each command by the next entry of the script
for its kind. What it sends is a list of items: bytes, and signals that the near end meets when it
reads them.
-/
namespace CertConsole

/-- Something other than a byte that a read can meet. -/
inductive Signal where
  /-- The read fails. -/
  | failure (error : ChannelError)
  /-- The read finds the end of the data. -/
  | endOfData
  deriving DecidableEq, Repr

/-- One thing waiting to be read. -/
inductive Item where
  /-- A byte. -/
  | byte (value : UInt8)
  /-- A signal. -/
  | signal (signal : Signal)
  deriving DecidableEq, Repr

/-- What a responder takes a command for. -/
inductive CommandKind where
  | begin
  | line
  | finish
  | status
  deriving DecidableEq, Repr

/-- A command that is no marker and no query is a certificate line. -/
def CommandKind.ofBytes (command : List UInt8) : CommandKind :=
  if command = Utf8.encode Command.begin.text.toList then .begin
  else if command = Utf8.encode Command.finish.text.toList then .finish
  else if command = Utf8.encode Command.status.text.toList then .status
  else .line

/-- A console that answers by a script. -/
structure Responder where
  /-- The answers to the begin markers, in order; the last one stands for all that follow. -/
  beginReplies : List (List Item) := []
  /-- The answers to the certificate lines. -/
  lineReplies : List (List Item) := []
  /-- The answers to the end markers. -/
  finishReplies : List (List Item) := []
  /-- The answers to the status queries. -/
  statusReplies : List (List Item) := []
  /-- The commands received so far, without their terminators. -/
  commands : List (List UInt8) := []
  /-- The bytes received after the last terminator. -/
  pending : List UInt8 := []
  deriving DecidableEq, Repr

namespace Responder

/-- The script for one kind of command. -/
def replies (responder : Responder) : CommandKind → List (List Item)
  | .begin => responder.beginReplies
  | .line => responder.lineReplies
  | .finish => responder.finishReplies
  | .status => responder.statusReplies

/-- How many commands of a kind were received. -/
def count (responder : Responder) (kind : CommandKind) : Nat :=
  responder.commands.countP (CommandKind.ofBytes · == kind)

/-- The answer to the next command of a kind: the script's entry for it, else its last entry. -/
def answer (responder : Responder) (kind : CommandKind) : List Item :=
  let script := responder.replies kind
  (script[responder.count kind]?.or script.getLast?).getD []

/-- One byte arrives. A terminator completes a command, and the answer is sent. -/
def receiveByte (byte : UInt8) (responder : Responder) : List Item × Responder :=
  if byte = Command.terminator then
    (responder.answer (.ofBytes responder.pending),
      { responder with commands := responder.commands ++ [responder.pending], pending := [] })
  else ([], { responder with pending := responder.pending ++ [byte] })

/-- Bytes arrive one after the other; the answers follow each other. -/
def receive : List UInt8 → Responder → List Item × Responder
  | [], responder => ([], responder)
  | byte :: bytes, responder =>
    let (answer, next) := responder.receiveByte byte
    let (later, last) := receive bytes next
    (answer ++ later, last)

end Responder

end CertConsole
