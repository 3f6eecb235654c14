import CertConsole.Console.Reply
import CertConsole.Event

/-!
# Ports

A port is the near end of a serial line. Its operations are functions of its state: each returns
what happened and the state after it, so an upload over any port is a value that can be reasoned
about. Two compound operations are built from them: `writeAll` hands a buffer over to the last byte
and `readLine` collects one console line.

Time enters in two places. `pause` lets it pass on purpose. A line is read until its timeout has
passed, and `patience` is how many bytes and interruptions fit into that time after the first.
-/
namespace CertConsole

/-- What a read of one byte finds. -/
inductive ReadResult where
  /-- One byte. -/
  | byte (value : UInt8)
  /-- The line has ended. -/
  | nothing
  /-- The read failed. -/
  | failed (error : ChannelError)
  deriving DecidableEq, Repr

/-- What a write does with a buffer. -/
inductive WriteResult where
  /-- The port took that many bytes from the front. -/
  | accepted (count : Nat)
  /-- The write failed and took nothing. -/
  | failed (error : ChannelError)
  deriving DecidableEq, Repr

/-- The operations of a serial port with states in `σ`. -/
class Port (σ : Type) where
  /-- The name that the port is known by. -/
  name : σ → String
  /-- How many bytes and interruptions a line read has time for after its first one. -/
  patience : σ → Nat
  /-- Read one byte. -/
  read : σ → ReadResult × σ
  /-- Offer bytes to be sent. -/
  write : List UInt8 → σ → WriteResult × σ
  /-- Wait until everything accepted is sent. -/
  flush : σ → Except ChannelError Unit × σ
  /-- Discard what was received and not yet read. -/
  clear : σ → Except PortError Unit × σ
  /-- What discarding input tells in the log. -/
  clearEvents : σ → List Event
  /-- Close the port. -/
  close : σ → Except PortError Unit × σ
  /-- What closing tells in the log. -/
  closeEvents : σ → List Event
  /-- Let time pass. -/
  pause : Milliseconds → σ → σ
  /-- A bound on the writes that will be interrupted. -/
  stalls : σ → Nat
  /-- Each interruption of a write uses up one of the bound. -/
  stalls_of_interrupted : ∀ bytes port error port', write bytes port = (.failed error, port') →
    error.kind = .interrupted → stalls port' < stalls port
  /-- An accepted write does not raise the bound. -/
  stalls_of_accepted : ∀ bytes port count port', write bytes port = (.accepted count, port') →
    stalls port' ≤ stalls port

namespace Port

variable {σ : Type} [Port σ]

/-- Write a buffer to its last byte. A write that takes a part is followed by one of the rest, an
interrupted one is repeated, and one that takes nothing is an error. -/
def writeAll (bytes : List UInt8) (port : σ) : Except ChannelError Unit × σ :=
  match bytes with
  | [] => (.ok (), port)
  | byte :: rest =>
    match result : write (byte :: rest) port with
    | (.accepted 0, next) => (.error .nothingWritten, next)
    | (.accepted (count + 1), next) =>
      have := stalls_of_accepted _ _ _ _ result
      writeAll (rest.drop count) next
    | (.failed error, next) =>
      if interrupted : error.kind = .interrupted then
        have := stalls_of_interrupted _ _ _ _ result interrupted
        writeAll (byte :: rest) next
      else (.error error, next)
termination_by bytes.length + stalls port
decreasing_by
  · simp only [List.length_drop, List.length_cons]
    omega
  · omega

/-- Write a buffer to its last byte and wait until it is sent. -/
def deliver (bytes : List UInt8) (port : σ) : Except ChannelError Unit × σ :=
  match writeAll bytes port with
  | (.ok (), next) => flush next
  | (.error error, next) => (.error error, next)

/-- The byte that ends a console line. -/
def lineFeed : UInt8 := 0x0A

/-- Collect bytes up to a line feed. Interruptions are passed over; the end of the data, a read
that finds none in time and the end of the patience all end the line where it is. -/
def collectLine (patience : Nat) (port : σ) : Except ChannelError (List UInt8) × σ :=
  match read port with
  | (.byte byte, next) =>
    if byte = lineFeed then (.ok [byte], next)
    else match patience with
      | 0 => (.ok [byte], next)
      | patience + 1 =>
        let (rest, last) := collectLine patience next
        (rest.map (byte :: ·), last)
  | (.nothing, next) => (.ok [], next)
  | (.failed error, next) =>
    if error.kind = .interrupted then
      match patience with
      | 0 => (.ok [], next)
      | patience + 1 => collectLine patience next
    else if error.isSilence then (.ok [], next)
    else (.error error, next)

/-- Read one console line. Silence is an empty line; an error loses what was collected. -/
def readLine (port : σ) : Except ChannelError String × σ :=
  let (bytes, next) := collectLine (patience port) port
  (bytes.map Reply.decodeLine, next)

end Port

end CertConsole
