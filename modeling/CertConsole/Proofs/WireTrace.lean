import CertConsole.Proofs.Delivery
import CertConsole.Proofs.Orderly
import CertConsole.Proofs.Stable
import Mathlib.Control.Monad.Basic

/-!
# The wire trace of an upload

Whatever the port does, the bytes that it takes in the course of an upload are a part of one fixed
byte string from its front: the begin marker, the certificate lines in the order of the file, the
end marker and the status query, each with its terminator (`wire_trace`). What a device at the far
end has received is determined by those bytes alone (`Device.Hears`).
-/
namespace CertConsole

namespace Upload

open Procedure

/-- The commands of an upload that runs to its end. -/
def commands (certificate : Certificate) : List Command :=
  .begin :: (certificate.lines.map .line ++ [.finish, .status])

/-- The texts of these commands: the markers and the lines behind one setting, and the query. -/
theorem commands_text (certificate : Certificate) :
    (commands certificate).map Command.text =
      "set mqtt.cert.upload BEGIN" ::
        (certificate.lines.map ("set mqtt.cert.upload " ++ ·) ++
          ["set mqtt.cert.upload END", "get mqtt.cert.status"]) := by
  have line : Command.text ∘ Command.line = ("set mqtt.cert.upload " ++ ·) := rfl
  rw [commands, List.map_cons, List.map_append, List.map_map, line]
  rfl

/-- The bytes of these commands on the wire. -/
def wire (certificate : Certificate) : List UInt8 := (commands certificate).flatMap Command.encode

/-- On the wire the begin marker comes first and the status query last. -/
theorem wire_eq (certificate : Certificate) :
    wire certificate = Command.begin.encode ++
      (lineBytes certificate.lines ++ (Command.finish.encode ++ Command.status.encode)) := by
  simp [wire, commands, lineBytes, List.flatMap_cons, List.flatMap_append, List.flatMap_map]

/-- No command of an upload of a text has a terminator inside. -/
theorem commands_plain {text : String} {command : Command}
    (inside : command ∈ commands (.ofText text)) : Command.terminator ∉ command.bytes := by
  apply Command.plain_of_text
  have told : command.text ∈ (commands (.ofText text)).map Command.text :=
    List.mem_map_of_mem inside
  rw [commands_text] at told
  rcases List.mem_cons.mp told with begin | later
  · rw [begin]
    decide
  · rcases List.mem_append.mp later with content | marker
    · obtain ⟨line, member, same⟩ := List.mem_map.mp content
      have plain := Certificate.ofText_plain member
      have setting : '\r' ∉ "set mqtt.cert.upload ".toList := by decide
      intro inner
      rw [← same, String.toList_append] at inner
      rcases List.mem_append.mp inner with early | late
      · exact setting early
      · exact absurd (plain '\r' late) (by decide)
    · simp only [List.mem_cons, List.not_mem_nil, or_false] at marker
      rcases marker with finish | status
      · rw [finish]
        decide
      · rw [status]
        decide

/-- No line of a text has a terminator inside when it is sent. -/
theorem line_plain {text line : String} (inside : line ∈ (Certificate.ofText text).lines) :
    Command.terminator ∉ (Command.line line).bytes :=
  commands_plain (List.mem_cons_of_mem _ (List.mem_append_left _ (List.mem_map_of_mem inside)))

variable {σ : Type} [Port σ]

/-- A transfer that has a report was accepted and sent all lines. -/
theorem transfer_ok {plan : UploadPlan} {certificate : Certificate} {session : Session σ}
    {report : UploadReport} (done : ((transfer plan certificate).run session).1 = .ok report) :
    report.begin = .ready := by
  obtain ⟨_, last, whole⟩ : ∃ value last, (transfer plan certificate).run session =
      (.ok value, last) ∧ value = report := ⟨report, _, Prod.ext done rfl, rfl⟩
  obtain ⟨whole, rfl⟩ := whole
  obtain ⟨linesSent, streamed, _, rest⟩ := run_bind_ok.mp whole
  obtain ⟨saved, finished, _, rest⟩ := run_bind_ok.mp rest
  obtain ⟨caStatus, verified, _, rest⟩ := run_bind_ok.mp rest
  obtain ⟨_, _, _, rest⟩ := run_bind_ok.mp rest
  rw [run_pure] at rest
  cases rest
  rfl

/-- The phases send the commands of an upload in their order: all of them when the device accepts
the begin marker and no operation fails, and the begin marker alone when it does not accept it. -/
theorem phases_send (plan : UploadPlan) (certificate : Certificate)
    (session : Session (Recorded σ)) :
    ∃ sent, Recorded.Sends sent
        (failureOf ((phases plan certificate).run session).1) session.port
        ((phases plan certificate).run session).2.port ∧
      sent <+: wire certificate ∧
      ∀ report, ((phases plan certificate).run session).1 = .ok report →
        sent = if report.begin = .ready then wire certificate else Command.begin.encode := by
  have opened := opening_sends plan certificate session
  have opens : Command.begin.encode <+: wire certificate := by
    rw [wire_eq]
    exact List.prefix_append _ _
  rw [phases_eq, run_bind]
  rcases outcome : (opening plan certificate).run session with ⟨error | answer, after⟩
  · rw [outcome] at opened
    exact ⟨_, opened, opens, nofun⟩
  · rw [outcome] at opened
    have aborted (refused : answer ≠ .ready) (report : UploadReport)
        (done : (.ok (.aborted answer) : Except PortError UploadReport) = .ok report) :
        Command.begin.encode =
          if report.begin = .ready then wire certificate else Command.begin.encode := by
      cases done
      exact (if_neg refused).symm
    cases answer with
    | refused line => exact ⟨_, opened, opens, aborted nofun⟩
    | noResponse => exact ⟨_, opened, opens, aborted nofun⟩
    | ready =>
      refine ⟨_, opened.trans (transfer_sends plan certificate after), ?_, ?_⟩
      · exact ⟨[], by rw [wire_eq, List.append_nil]⟩
      · intro report done
        rw [wire_eq, if_pos (transfer_ok done)]

/-- Where settling fails the phases end. -/
theorem phases_settle_error {plan : UploadPlan} {session : Session σ} {error : PortError}
    (certificate : Certificate) (failed : ((settle plan).run session).1 = .error error) :
    ((phases plan certificate).run session).1 = .error error ∧
      ((phases plan certificate).run session).2.port = ((settle plan).run session).2.port := by
  have blocked : (Port.clear (Port.pause plan.settleDelay session.port)).1 = .error error := by
    rw [← failed, run_settle, run_clearInput]
  rw [phases_eq, opening, run_bind, run_bind, warnOfSize, run_tell]
  simp only [run_bind, run_settle, run_clearInput, blocked, and_self]

end Upload

namespace Device

/-- The far end of a recorded device has received the bytes that the record says were taken. -/
def Hears (start : Responder) (record : Recorded Device) : Prop :=
  record.port.responder = (start.receive (acceptedBytes record.operations)).2

/-- An operation that leaves the far end what its bytes make of it is heard. -/
theorem Hears.enter {start : Responder} {record next : Recorded Device} {operation : Operation}
    (heard : Hears start record) (entered : next.operations = record.operations ++ [operation])
    (received : next.port.responder = (record.port.responder.receive operation.accepted).2) :
    Hears start next := by
  have all : acceptedBytes next.operations =
      acceptedBytes record.operations ++ operation.accepted := by
    rw [entered, acceptedBytes_append]
    simp [acceptedBytes]
  unfold Hears at heard ⊢
  rw [all, Responder.receive_append, ← heard]
  exact received

/-- The far end of a device receives what is written, and nothing else. -/
theorem hears_stable (start : Responder) : Port.Stable (Hears start) where
  read {record} heard := heard.enter rfl record.port.read_responder
  write bytes record heard := by
    refine heard.enter rfl ?_
    obtain ⟨rules, took⟩ := write_took bytes record.port
    exact congrArg Device.responder took
  flush {record} heard := heard.enter rfl record.port.flush_responder
  clear {record} heard := heard.enter rfl record.port.clear_responder
  close heard := heard.enter rfl rfl
  pause _ _ heard := heard

/-- After an upload the far end of a device has received the bytes that the device took. -/
theorem upload_heard (plan : UploadPlan) (certificate : Certificate) (session : Session Device) :
    ((Upload.run plan certificate).run session).2.port.responder =
      (session.port.responder.receive
        (acceptedBytes (Upload.operations plan certificate session))).2 := by
  have heard := (hears_stable session.port.responder).upload plan certificate session.recording rfl
  have mirrored := (Upload.run_recording plan certificate session).2.port
  rw [← mirrored]
  exact heard

end Device

namespace Upload

open Procedure

variable {σ : Type} [Port σ]

/-- Closing takes no bytes, so the phases took all that an upload hands over. -/
theorem acceptedBytes_operations (plan : UploadPlan) (certificate : Certificate)
    (session : Session σ) :
    acceptedBytes (operations plan certificate session) =
      acceptedBytes (phaseOperations plan certificate session) := by
  rw [operations_eq, acceptedBytes_append]
  exact List.append_nil _

/-- What the operations of the phases amount to: they hand over the commands in their order. -/
theorem phaseOperations_orderly (plan : UploadPlan) (certificate : Certificate)
    (session : Session σ) :
    ∃ sent, Orderly sent (phaseOperations plan certificate session)
        (failureOf ((phases plan certificate).run session).1) ∧
      sent <+: wire certificate ∧
      ∀ report, ((phases plan certificate).run session).1 = .ok report →
        sent = if report.begin = .ready then wire certificate else Command.begin.encode := by
  obtain ⟨sent, ⟨operations, entered, orderly⟩, part, whole⟩ :=
    phases_send plan certificate session.recording
  rw [(phases_recording plan certificate session).1] at orderly whole
  have all : phaseOperations plan certificate session = operations := entered
  rw [all]
  exact ⟨sent, orderly, part, whole⟩

/-- Where settling fails nothing was handed over. -/
theorem settle_error_silent {plan : UploadPlan} {session : Session σ} {error : PortError}
    (certificate : Certificate) (failed : ((settle plan).run session).1 = .error error) :
    acceptedBytes (phaseOperations plan certificate session) = [] := by
  have same := settle_simulates Recorded.mirrors_simulation plan _ _ (recording_alike session)
  have left := phases_settle_error certificate (same.1.trans failed)
  obtain ⟨operations, entered, orderly⟩ := settle_sends plan session.recording
  have all : phaseOperations plan certificate session = operations := by
    unfold phaseOperations
    rw [left.2]
    exact entered
  rw [all]
  exact List.prefix_nil.mp orderly.accepts

/-- **The wire trace.** Whatever a port does, the bytes that it takes from an upload of a text are
a part of the wire from its front, and to a responder with nothing pending they are a part of the
list of commands: none skipped, repeated, moved or cut in two. All of the wire is sent when the
phases end with a device that was ready, the begin marker alone when they end with another answer,
and nothing when settling fails. The far end of a device in memory is such a responder. -/
theorem wire_trace (plan : UploadPlan) (text : String) :
    (∀ {σ : Type} [Port σ] (session : Session σ),
      let certificate := Certificate.ofText text
      let taken := acceptedBytes (operations plan certificate session)
      taken <+: wire certificate ∧
      (∀ responder : Responder, responder.pending = [] →
        ∃ seen, seen <+: (commands certificate).map Command.bytes ∧
          (responder.receive taken).2.commands = responder.commands ++ seen) ∧
      (∀ report, ((phases plan certificate).run session).1 = .ok report →
        taken = if report.begin = .ready then wire certificate else Command.begin.encode) ∧
      (∀ error, ((settle plan).run session).1 = .error error → taken = [])) ∧
    ∀ session : Session Device, session.port.responder.pending = [] →
      ∃ seen, seen <+: (commands (.ofText text)).map Command.bytes ∧
        ((run plan (.ofText text)).run session).2.port.responder.commands =
          session.port.responder.commands ++ seen := by
  have traced {σ : Type} [Port σ] (session : Session σ) :
      acceptedBytes (operations plan (.ofText text) session) <+: wire (.ofText text) := by
    obtain ⟨sent, orderly, part, -⟩ := phaseOperations_orderly plan (.ofText text) session
    rw [acceptedBytes_operations]
    exact orderly.accepts.trans part
  -- The wire is whole commands on end, and none has a terminator inside.
  have cut {taken : List UInt8} (part : taken <+: wire (.ofText text)) (responder : Responder)
      (idle : responder.pending = []) :
      ∃ seen, seen <+: (commands (.ofText text)).map Command.bytes ∧
        (responder.receive taken).2.commands = responder.commands ++ seen := by
    refine responder.receive_cut ?_ ?_ idle
    · intro bytes inside
      obtain ⟨command, member, rfl⟩ := List.mem_map.mp inside
      exact commands_plain member
    · rw [List.flatMap_map]
      exact part
  refine ⟨fun session => ⟨traced session, cut (traced session), ?_, ?_⟩, ?_⟩
  · intro report done
    obtain ⟨sent, orderly, -, whole⟩ := phaseOperations_orderly plan (.ofText text) session
    rw [done] at orderly
    rw [acceptedBytes_operations, orderly.acceptsAll rfl]
    exact whole report done
  · intro error failed
    rw [acceptedBytes_operations]
    exact settle_error_silent _ failed
  · intro session idle
    rw [Device.upload_heard]
    exact cut (traced session) _ idle

/-- A device that answers the begin marker is sent all commands of a text. -/
theorem wire_trace_ready :
    let device : Device := { responder := {
      beginReplies := [(Utf8.encode "ready to receive\n".toList).map .byte] } }
    let session : Session Device := { port := device }
    acceptedBytes (operations {} (.ofText "a\r\nb") session) =
        wire (.ofText "a\r\nb") ∧
      ∃ seen, seen <+: (commands (.ofText "a\r\nb")).map Command.bytes ∧
        ((run {} (.ofText "a\r\nb")).run session).2.port.responder.commands = seen := by
  intro device session
  obtain ⟨everywhere, heard⟩ := wire_trace {} "a\r\nb"
  have done : ((phases {} (.ofText "a\r\nb")).run session).1 =
      .ok ⟨.ready, 2, false, .notReported⟩ := by decide +kernel
  exact ⟨(everywhere session).2.2.1 _ done, heard session rfl⟩

end Upload

end CertConsole
