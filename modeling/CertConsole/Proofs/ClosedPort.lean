import CertConsole.Port.SerialLine
import CertConsole.Proofs.Closing
import CertConsole.Proofs.Steps

/-!
# Closed ports

A port that was closed is of no use to an upload and takes no harm from one. Discarding input and
closing again are all that is still done; whatever sends is refused before it reads, so nothing
reaches the far end and what is waiting goes on waiting (`closed_absorbs`). The law of a closed port
is stated for any port (`Port.Shut`) and holds of a device in memory and of a serial line.
-/
namespace CertConsole

open Procedure

variable {σ α β : Type}

namespace Procedure

/-- On a closed port a procedure has this result, reports no progress and leaves the port closed. -/
def Ends (closed : σ → Prop) (result : Except PortError α) (procedure : Procedure σ α) : Prop :=
  ∀ session, closed session.port →
    (procedure.run session).1 = result ∧ closed (procedure.run session).2.port ∧
      (procedure.run session).2.progress = session.progress

namespace Ends

variable {closed : σ → Prop}

theorem pure (value : α) : Ends closed (.ok value) (Pure.pure value : Procedure σ α) :=
  fun _ shut => ⟨rfl, shut, rfl⟩

/-- Behind a step that succeeds the next one decides. -/
theorem bind {value : α} {result : Except PortError β} {first : Procedure σ α}
    {next : α → Procedure σ β} (head : Ends closed (.ok value) first)
    (tail : Ends closed result (next value)) : Ends closed result (first >>= next) := by
  intro session shut
  obtain ⟨done, still, silent⟩ := head session shut
  rw [run_bind]
  rcases outcome : first.run session with ⟨error | found, after⟩ <;>
    rw [outcome] at done still silent
  · cases done
  · cases done
    obtain ⟨same, last, quiet⟩ := tail after still
    exact ⟨same, last, quiet.trans silent⟩

/-- Behind a step that fails nothing is done. -/
theorem stop {error : PortError} {first : Procedure σ α} {next : α → Procedure σ β}
    (head : Ends closed (.error error) first) :
    Ends closed (.error error : Except PortError β) (first >>= next) := by
  intro session shut
  obtain ⟨done, still, silent⟩ := head session shut
  rw [run_bind]
  rcases outcome : first.run session with ⟨failure | found, after⟩ <;>
    rw [outcome] at done still silent
  · cases done
    exact ⟨rfl, still, silent⟩
  · cases done

theorem map (change : α → β) {result : Except PortError α} {procedure : Procedure σ α}
    (ends : Ends closed result procedure) :
    Ends closed (result.map change) (change <$> procedure) := by
  intro session shut
  obtain ⟨done, still, silent⟩ := ends session shut
  rw [run_map, done]
  exact ⟨rfl, still, silent⟩

theorem tell (events : List Event) :
    Ends closed (.ok ()) (Procedure.tell events : Procedure σ Unit) :=
  fun _ shut => ⟨rfl, shut, rfl⟩

end Ends

end Procedure

variable [Port σ]

/-- States in which a port is closed: the operations of an upload do not lead out of them. -/
structure Port.Shut (closed : σ → Prop) : Prop where
  /-- No buffer is delivered. -/
  deliver : ∀ bytes {port}, closed port →
    (Port.deliver bytes port).1 = .error .portClosed ∧ closed (Port.deliver bytes port).2
  /-- There is nothing to discard, which is no failure. -/
  clear : ∀ {port}, closed port → (Port.clear port).1 = .ok () ∧ closed (Port.clear port).2
  /-- A port that is closed again is closed, whatever the attempt reports. -/
  close : ∀ {port}, closed port → closed (Port.close port).2
  /-- Time does not open it. -/
  pause : ∀ span {port}, closed port → closed (Port.pause span port)

namespace Procedure.Ends

variable {closed : σ → Prop} (closing : Port.Shut closed)
include closing

/-- A command is refused. -/
theorem send (command : Command) :
    Ends closed (.error (.channel .portClosed))
      (Procedure.send command : Procedure σ Unit) := by
  intro session shut
  obtain ⟨refused, still⟩ := closing.deliver command.encode shut
  rw [run_send, refused]
  exact ⟨rfl, still, rfl⟩

theorem clearInput : Ends closed (.ok ()) (Procedure.clearInput : Procedure σ Unit) := by
  intro session shut
  obtain ⟨done, still⟩ := closing.clear shut
  rw [run_clearInput, done]
  exact ⟨rfl, still, rfl⟩

/-- An inquiry ends at its command, so nothing is read for it. -/
theorem inquire (command : Command) (wait : Milliseconds) (find : String → Option α)
    (attempts : Nat) (conclude : Option α → β) (event : β → Event) :
    Ends closed (.error (.channel .portClosed))
      (Procedure.inquire command wait find attempts conclude event : Procedure σ β) :=
  .stop (.send closing command)

end Procedure.Ends

namespace Upload

/-- What a step comes to on a closed port: only what sends nothing succeeds. -/
def Step.onClosed : Step → Except PortError Finding
  | .settle => .ok .settled
  | .stream certificate =>
    if certificate.isEmpty then .ok (.sent 0) else .error (.channel .portClosed)
  | .begin | .finish | .verify | .run _ => .error (.channel .portClosed)

section

variable {closed : σ → Prop} (closing : Port.Shut closed)
include closing

theorem settle_closed (plan : UploadPlan) :
    Ends closed (.ok ()) (settle plan : Procedure σ Unit) := by
  intro session shut
  rw [run_settle]
  exact Ends.clearInput closing _ (closing.pause _ shut)

theorem begin_closed (plan : UploadPlan) :
    Ends closed (.error (.channel .portClosed)) (begin plan : Procedure σ BeginOutcome) := by
  rw [begin_eq]
  exact .inquire closing _ _ _ _ _ _

/-- Streaming is refused at the first line, if there is one. -/
theorem stream_closed (plan : UploadPlan) (certificate : Certificate) :
    Ends closed (if certificate.isEmpty then .ok 0 else .error (.channel .portClosed))
      (stream plan certificate : Procedure σ Nat) := by
  refine .bind (.tell _) ?_
  obtain ⟨lines⟩ := certificate
  cases lines with
  | nil => exact .pure 0
  | cons line lines => exact .stop (.send closing (.line line))

/-- A whole upload is refused at the begin marker, whatever closing the port again reports. -/
theorem run_closed (plan : UploadPlan) (certificate : Certificate) :
    Ends closed (.error (.channel .portClosed))
      (run plan certificate : Procedure σ UploadReport) := by
  intro session shut
  have phased : Ends closed (.error (.channel .portClosed))
      (phases plan certificate : Procedure σ UploadReport) := by
    rw [phases_settling]
    exact .bind (.tell _) (.bind (settle_closed closing plan) (.stop (begin_closed closing plan)))
  obtain ⟨refused, still, silent⟩ := phased session shut
  refine ⟨run_error refused, ?_⟩
  rw [run_last]
  exact ⟨closing.close still, silent⟩

/-- Every step has its result on a closed port. -/
theorem step_closed (plan : UploadPlan) (step : Step) :
    Ends closed step.onClosed (step.procedure plan : Procedure σ Finding) := by
  cases step with
  | settle => exact .map _ (settle_closed closing plan)
  | begin => exact .map Finding.answered (begin_closed closing plan)
  | stream certificate =>
    have streamed := Ends.map Finding.sent (stream_closed closing plan certificate)
    rw [apply_ite (Except.map Finding.sent)] at streamed
    exact streamed
  | finish =>
    unfold Step.procedure
    rw [finish_eq]
    exact .map Finding.saved (.inquire closing _ _ _ _ _ _)
  | verify =>
    unfold Step.procedure
    rw [verify_eq]
    exact .map Finding.told (.inquire closing _ _ _ _ _ _)
  | run certificate => exact .map Finding.reported (run_closed closing plan certificate)

/-- Every sequence of steps has its results on a closed port, which stays closed. -/
theorem carryOut_closed (plan : UploadPlan) (steps : List Step) {session : Session σ}
    (shut : closed session.port) :
    (carryOut plan steps session).1 = steps.map Step.onClosed ∧
      closed (carryOut plan steps session).2.port ∧
      (carryOut plan steps session).2.progress = session.progress := by
  induction steps generalizing session with
  | nil => exact ⟨rfl, shut, rfl⟩
  | cons step steps ih =>
    obtain ⟨result, still, silent⟩ := step_closed closing plan step session shut
    obtain ⟨results, last, quiet⟩ := ih still
    rw [carryOut_cons]
    refine ⟨?_, last, quiet.trans silent⟩
    simp only [result, results, List.map_cons]

end

end Upload

namespace Device

/-- A device that is closed and has not changed since it was another one, but for how often it was
to discard input and to be closed. -/
def ClosedAs (origin device : Device) : Prop :=
  device.isClosed = true ∧
    ∃ clearCount closes closeCount, device = { origin with clearCount, closes, closeCount }

/-- A closed device is closed as it is. -/
theorem ClosedAs.refl {device : Device} (shut : device.isClosed = true) : ClosedAs device device :=
  ⟨shut, device.clearCount, device.closes, device.closeCount, rfl⟩

/-- A device that is closed again uses up one outcome of the script. -/
theorem close_closed {device : Device} (shut : device.isClosed = true) :
    Port.close device = (outcome device.closes,
      { device with closes := device.closes.tail, closeCount := device.closeCount + 1 }) := by
  obtain ⟨⟩ := device
  cases shut
  rfl

/-- A device in memory obeys the law of closed ports. -/
theorem closedAs_shut (origin : Device) : Port.Shut (ClosedAs origin) where
  deliver bytes device same := by
    rw [deliver_closed same.1]
    exact ⟨rfl, same⟩
  clear {device} same := by
    obtain ⟨shut, clearCount, closes, closeCount, rfl⟩ := same
    rw [clear_closed shut]
    exact ⟨rfl, shut, clearCount + 1, closes, closeCount, rfl⟩
  close {device} same := by
    obtain ⟨shut, clearCount, closes, closeCount, rfl⟩ := same
    exact ⟨rfl, clearCount, closes.tail, closeCount + 1, congrArg Prod.snd (close_closed shut)⟩
  pause _ _ same := same

end Device

namespace SerialLine

/-- A serial line that was closed and whose device has not changed since. -/
def ClosedAs (origin line : SerialLine) : Prop :=
  line.name = origin.name ∧ Device.ClosedAs origin.device line.device

/-- A buffer is delivered to a line as it is to its device. -/
theorem deliver_eq (bytes : List UInt8) (line : SerialLine) :
    Port.deliver bytes line = line.withDevice (Port.deliver bytes line.device) := by
  let carried (port : SerialLine) (device : Device) : Prop := port = { line with device }
  have start : carried line line.device := rfl
  have agree : Port.Agree carried (Port.deliver bytes line) (Port.deliver bytes line.device) :=
    Port.deliver_agree (by rintro bytes _ device rfl; exact ⟨rfl, rfl⟩)
      (by rintro _ device rfl; exact ⟨rfl, rfl⟩) bytes start
  exact Prod.ext agree.1 agree.2

/-- A serial line obeys the law of closed ports, as its device does. -/
theorem closedAs_shut (origin : SerialLine) : Port.Shut (ClosedAs origin) where
  deliver bytes line := by
    rintro ⟨name, same⟩
    obtain ⟨refused, still⟩ := (Device.closedAs_shut origin.device).deliver bytes same
    rw [deliver_eq]
    exact ⟨refused, name, still⟩
  clear := by
    rintro line ⟨name, same⟩
    obtain ⟨done, still⟩ := (Device.closedAs_shut origin.device).clear same
    exact ⟨done, name, still⟩
  close := by
    rintro line ⟨name, same⟩
    exact ⟨name, (Device.closedAs_shut origin.device).close same⟩
  pause _ _ same := same

end SerialLine

namespace Upload

/-- **A closed port is absorbing.** Closing closes a device and a serial line, and so does every
upload. From then on every sequence of steps fails step by step with the error of a closed port,
but for settling and for the streaming of a certificate without lines; no progress is reported, the
port stays closed, and the device does not change: it receives nothing, nothing is read from it and
what is waiting stays. -/
theorem closed_absorbs (plan : UploadPlan) (steps : List Step) :
    ((∀ device : Device, (Port.close device).2.isClosed = true) ∧
      (∀ line : SerialLine, (Port.close line).2.device.isClosed = true) ∧
      ∀ certificate : Certificate,
        (∀ session : Session Device,
          ((run plan certificate).run session).2.port.isClosed = true) ∧
        ∀ session : Session SerialLine,
          ((run plan certificate).run session).2.port.device.isClosed = true) ∧
    (∀ session : Session Device, session.port.isClosed = true →
      (carryOut plan steps session).1 = steps.map Step.onClosed ∧
        session.port.ClosedAs (carryOut plan steps session).2.port ∧
        (carryOut plan steps session).2.progress = session.progress) ∧
    ∀ session : Session SerialLine, session.port.device.isClosed = true →
      (carryOut plan steps session).1 = steps.map Step.onClosed ∧
        session.port.ClosedAs (carryOut plan steps session).2.port ∧
        (carryOut plan steps session).2.progress = session.progress := by
  refine ⟨⟨fun device => rfl, fun line => rfl, ?_⟩, ?_, ?_⟩
  · intro certificate
    constructor
    · intro session
      rw [run_last]
      rfl
    · intro session
      rw [run_last]
      rfl
  · intro session shut
    exact carryOut_closed (Device.closedAs_shut session.port) plan steps (.refl shut)
  · intro session shut
    exact carryOut_closed (SerialLine.closedAs_shut session.port) plan steps ⟨rfl, .refl shut⟩

example : (PortError.channel .portClosed).message = "I/O error: port closed" := rfl

/-- A device that had all answers ready when it was closed, and whose next attempts to close fail,
is left as it is by two uploads and an empty one. -/
theorem closed_absorbs_answers :
    let bytes (text : String) : List Item := (Utf8.encode text.toList).map .byte
    let device : Device := {
      responder := { beginReplies := [bytes "ready to receive\n"] }
      queue := bytes "ready to receive\ncertificate saved\n"
      closes := [none, some (.driver "gone"), some (.driver "gone")] }
    let session : Session Device := { port := (Port.close device).2 }
    let steps : List Step :=
      [.run (.ofText "a\nb"), .settle, .stream (.ofText "\n"), .finish, .run (.ofText "a")]
    let refused : Except PortError Finding := .error (.channel .portClosed)
    session.port.isClosed = true ∧
      (carryOut {} steps session).1 = [refused, .ok .settled, .ok (.sent 0), refused, refused] ∧
      session.port.ClosedAs (carryOut {} steps session).2.port := by
  intro bytes device session steps refused
  obtain ⟨results, same, -⟩ := (closed_absorbs {} steps).2.1 session rfl
  exact ⟨rfl, results.trans (by decide), same⟩

end Upload

end CertConsole
