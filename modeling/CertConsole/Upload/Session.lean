import CertConsole.Port
import CertConsole.Console.Command

/-!
# Upload sessions

A session is a port together with what was told so far: the log and the progress of the certificate
lines. A procedure changes a session and may fail; a failure keeps the session as it was when the
procedure failed.
-/
namespace CertConsole

/-- A port in use, and what was told since the session began. -/
structure Session (σ : Type) where
  /-- The port. -/
  port : σ
  /-- The events told, in order. -/
  log : List Event := []
  /-- For each certificate line sent, its number from one and how many lines there are. -/
  progress : List (Nat × Nat) := []
  deriving DecidableEq, Repr

/-- Something that is done in a session and may fail. -/
abbrev Procedure (σ : Type) : Type → Type := ExceptT PortError (StateM (Session σ))

namespace Procedure

variable {σ α : Type}

/-- Carry out a procedure in a session. -/
def run (procedure : Procedure σ α) (session : Session σ) : Except PortError α × Session σ :=
  ExceptT.run procedure session

/-- Tell events. -/
def tell (events : List Event) : Procedure σ Unit :=
  modify fun session => { session with log := session.log ++ events }

/-- Report that certificate lines were sent. -/
def advance (sent total : Nat) : Procedure σ Unit :=
  modify fun session => { session with progress := session.progress ++ [(sent, total)] }

/-- Carry out an operation of the port. -/
def onPort (operation : σ → Except PortError α × σ) : Procedure σ α :=
  fun session =>
    let (result, port) := operation session.port
    (result, { session with port })

/-- Carry out an operation of the port that fails with errors of the channel. -/
def onChannel (operation : σ → Except ChannelError α × σ) : Procedure σ α :=
  onPort fun port =>
    let (result, next) := operation port
    (result.mapError .channel, next)

variable [Port σ]

/-- Let time pass. -/
def pause (span : Milliseconds) : Procedure σ Unit :=
  modify fun session => { session with port := Port.pause span session.port }

/-- Send a command. -/
def send (command : Command) : Procedure σ Unit := do
  tell [.sending command.text]
  onChannel (Port.deliver command.encode)

/-- Read one console line. A line that is not empty is told. -/
def readLine : Procedure σ String := do
  let line ← onChannel Port.readLine
  if line ≠ "" then tell [.received line]
  return line

/-- Read lines until one of them that is not empty has what is looked for, or as many were read as
there are attempts. -/
def poll (find : String → Option α) : Nat → Procedure σ (Option α)
  | 0 => return none
  | attempts + 1 => do
    let line ← readLine
    match if line = "" then none else find line with
    | some found => return some found
    | none => poll find attempts

/-- Discard the input that was received. -/
def clearInput : Procedure σ Unit := do
  tell (Port.clearEvents (← get).port)
  onPort Port.clear

/-- Close the port. -/
def close : Procedure σ Unit := do
  tell (Port.closeEvents (← get).port)
  onPort Port.close

end Procedure

end CertConsole
