import CertConsole.Port
import CertConsole.Port.Responder

/-!
# Devices in memory

A device is a port with a scripted responder at its far end. The script also says how the near end
behaves: how much a write takes, which calls fail, and what a read meets when nothing is waiting.
A read takes one item of the queue, so a line that nobody asked for stays there. Nothing arrives on
its own, so a pause changes nothing.
-/
namespace CertConsole

/-- How one write call behaves. -/
inductive WriteRule where
  /-- It takes what the device takes at most. -/
  | normal
  /-- It takes at most that many bytes. -/
  | atMost (count : Nat)
  /-- It fails. -/
  | fail (error : ChannelError)
  deriving DecidableEq, Repr

/-- A port in memory. -/
structure Device where
  /-- The name that the device is known by. -/
  name : String := "scripted"
  /-- The time that a line is waited for. -/
  timeout : Milliseconds := 60000
  /-- The far end. -/
  responder : Responder := {}
  /-- What has arrived and was not read. -/
  queue : List Item := []
  /-- What a read of an empty queue meets. -/
  idle : Signal := .failure ⟨.timedOut, "no data"⟩
  /-- The most bytes that one write takes. -/
  writeLimit : Option Nat := none
  /-- The behaviour of the next write calls; all later ones are normal. -/
  writes : List WriteRule := []
  /-- The errors of the next flushes. -/
  flushes : List (Option ChannelError) := []
  /-- The errors of the next attempts to discard input. -/
  clears : List (Option PortError) := []
  /-- The errors of the next attempts to close. -/
  closes : List (Option PortError) := []
  /-- How many reads were made. -/
  readCount : Nat := 0
  /-- How many flushes were made. -/
  flushCount : Nat := 0
  /-- How often input was discarded, or was to be. -/
  clearCount : Nat := 0
  /-- How often the device was closed, or was to be. -/
  closeCount : Nat := 0
  /-- The device was closed. -/
  isClosed : Bool := false
  deriving DecidableEq, Repr

namespace Device

/-- What a read that meets a signal finds. -/
def readSignal : Signal → ReadResult
  | .failure error => .failed error
  | .endOfData => .nothing

/-- Read the next item. A closed device is not read. -/
def read (device : Device) : ReadResult × Device :=
  if device.isClosed then (.failed .portClosed, device)
  else
    let counted := { device with readCount := device.readCount + 1 }
    match device.queue with
    | [] => (readSignal device.idle, counted)
    | .byte value :: rest => (.byte value, { counted with queue := rest })
    | .signal signal :: rest => (readSignal signal, { counted with queue := rest })

/-- The far end receives bytes; its answers join the queue. -/
def receive (bytes : List UInt8) (device : Device) : Device :=
  let (answer, responder) := device.responder.receive bytes
  { device with responder, queue := device.queue ++ answer }

/-- Offer bytes; what is taken reaches the far end at once. A closed device takes nothing. -/
def write (bytes : List UInt8) (device : Device) : WriteResult × Device :=
  if device.isClosed then (.failed .portClosed, device)
  else
    let later := { device with writes := device.writes.tail }
    let take (count : Nat) : WriteResult × Device :=
      (.accepted count, later.receive (bytes.take count))
    match device.writes.head? with
    | some (.fail error) => (.failed error, later)
    | some (.atMost count) => take (min count bytes.length)
    | some .normal | none => take (min (device.writeLimit.getD bytes.length) bytes.length)

/-- A call with a scripted outcome. -/
def outcome {ε : Type} (script : List (Option ε)) : Except ε Unit :=
  match script.head?.join with
  | some error => .error error
  | none => .ok ()

/-- Flush. A closed device is not flushed. -/
def flush (device : Device) : Except ChannelError Unit × Device :=
  if device.isClosed then (.error .portClosed, device)
  else (outcome device.flushes,
    { device with flushes := device.flushes.tail, flushCount := device.flushCount + 1 })

/-- Empty the queue, unless the attempt fails. On a closed device there is nothing to do. -/
def clear (device : Device) : Except PortError Unit × Device :=
  let counted := { device with clearCount := device.clearCount + 1 }
  if device.isClosed then (.ok (), counted)
  else
    let later := { counted with clears := device.clears.tail }
    match outcome device.clears with
    | .ok () => (.ok (), { later with queue := [] })
    | .error error => (.error error, later)

/-- Close, even where the attempt reports an error. -/
def close (device : Device) : Except PortError Unit × Device :=
  (outcome device.closes,
    { device with
      closes := device.closes.tail, closeCount := device.closeCount + 1, isClosed := true })

/-- More items arrive on their own. -/
def feed (items : List Item) (device : Device) : Device :=
  { device with queue := device.queue ++ items }

/-- With a timeout of zero the time is over after the first byte; any other timeout outlasts what
is waiting. -/
def patience (device : Device) : Nat := if device.timeout = 0 then 0 else device.queue.length

end Device

instance : Port Device where
  name := Device.name
  patience := Device.patience
  read := Device.read
  write := Device.write
  flush := Device.flush
  clear := Device.clear
  clearEvents _ := []
  close := Device.close
  closeEvents _ := []
  pause _ device := device
  stalls device := device.writes.length
  stalls_of_interrupted bytes device error device' written interrupted := by
    unfold Device.write at written
    split at written
    · simp only [Prod.mk.injEq, WriteResult.failed.injEq] at written
      obtain ⟨rfl, rfl⟩ := written
      simp [ChannelError.portClosed] at interrupted
    · cases script : device.writes with
      | nil => simp [script] at written
      | cons rule rules =>
        cases rule <;> simp [script] at written
        obtain ⟨rfl, rfl⟩ := written
        simp
  stalls_of_accepted bytes device count device' written := by
    unfold Device.write at written
    split at written
    · simp at written
    · cases script : device.writes with
      | nil =>
        simp [script] at written
        obtain ⟨rfl, rfl⟩ := written
        simp [Device.receive]
      | cons rule rules =>
        cases rule <;> simp [script] at written
        all_goals
          obtain ⟨rfl, rfl⟩ := written
          simp [Device.receive]

end CertConsole
