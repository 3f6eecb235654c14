import CertConsole.Proofs.Closing
import CertConsole.Proofs.Dependable

/-!
# An upload over a port that works is an upload to a line console

On a dependable device the queue of bytes is a queue of lines at all times: a command that is
delivered adds the lines of its answer, and a line that is read is the first one of the queue. So
every phase does to the bytes what the line console does to the lines (`run_refines_lines`).
-/
namespace CertConsole

namespace LineConsole

/-- The items of lines that arrived. -/
def items (lines : List WaitingLine) : List Item :=
  (lines.flatMap WaitingLine.bytes).map .byte

theorem items_append (before after : List WaitingLine) :
    items (before ++ after) = items before ++ items after := by
  rw [items, List.flatMap_append, List.map_append]
  rfl

/-- A dependable device that shows what a console of lines has: its far end is in the same state
with nothing pending, and its queue are the bytes of the unread lines. -/
structure Shown (device : Device) (console : LineConsole) : Prop where
  dependable : device.Dependable
  responder : device.responder = console.responder
  idle : console.responder.pending = []
  queue : device.queue = items console.unread

/-- The items of a reply of lines are those of the lines that its bytes are cut into. -/
theorem items_cut {reply : List Item} (lines : LineReply reply) :
    items (WaitingLine.cut (reply.filterMap Item.byte?)) = reply := by
  obtain ⟨bytes, rfl, whole⟩ := lines
  have same : (bytes.map Item.byte).filterMap Item.byte? = bytes := by
    rw [List.filterMap_map]
    exact List.filterMap_some
  rw [same, items, WaitingLine.cut_bytes whole]

namespace Shown

variable {device : Device} {console : LineConsole}

/-- A command is delivered to the far end, and its answer is lines behind the unread ones. -/
theorem deliver (shown : Shown device console) {command : Command}
    (plain : Command.terminator ∉ command.bytes) :
    (Port.deliver command.encode device).1 = .ok () ∧
      Shown (Port.deliver command.encode device).2 ((ask command).run console).2 := by
  obtain ⟨rules, benign, written⟩ :=
    shown.dependable.accepting.writeAll_eq command.encode shown.dependable.isOpen
  have after := shown.dependable.took command.encode benign
  have received : device.responder.receive command.encode =
      (console.responder.answer (.ofBytes command.bytes), { console.responder with
        commands := console.responder.commands ++ [command.bytes], pending := [] }) := by
    rw [shown.responder]
    exact Responder.receive_command plain console.responder shown.idle
  rw [Port.deliver_eq, written]
  simp only [after.flush_eq, true_and]
  refine ⟨?_, ?_, shown.idle, ?_⟩
  · exact { after with
      flushes := fun error inside => after.flushes error (List.mem_of_mem_tail inside) }
  · change (device.responder.receive command.encode).2 = _
    rw [received]
    change _ = { console.responder with
      commands := console.responder.commands ++ [command.bytes] }
    rw [← shown.idle]
  · change device.queue ++ (device.responder.receive command.encode).1 = items (console.unread ++ _)
    have lines := Responder.answer_lines (shown.dependable.replies (.ofBytes command.bytes))
    rw [shown.responder] at lines
    rw [items_append, items_cut lines, shown.queue, received]

/-- A line that is read is the one that is popped. -/
theorem readLine (shown : Shown device console) :
    (Port.readLine device).1 = .ok (pop.run console).1 ∧
      Shown (Port.readLine device).2 (pop.run console).2 := by
  obtain ⟨reads, found⟩ :=
    Device.readLine_open shown.dependable.isOpen shown.dependable.timeout
  rw [found]
  cases unread : console.unread with
  | nil =>
    have queue : device.queue = [] := by
      rw [shown.queue, unread]
      rfl
    have taken : Device.takeLine device.idle device.queue = (.ok [], []) := by
      rw [queue, Device.takeLine]
      simp only [shown.dependable.idle.verdict_ends]
    rw [taken, run_pop_nil unread]
    refine ⟨rfl, shown.dependable.left _ _, shown.responder, shown.idle, ?_⟩
    rw [unread]
    rfl
  | cons line rest =>
    have queue : device.queue = (line.body ++ [Port.lineFeed]).map .byte ++ items rest := by
      rw [shown.queue, unread, items, List.flatMap_cons, List.map_append]
      rfl
    have taken : Device.takeLine device.idle device.queue = (.ok line.bytes, items rest) := by
      rw [queue]
      exact Device.takeLine_line _ line.plain _
    rw [taken, run_pop_cons unread]
    exact ⟨rfl, shown.dependable.left _ _, shown.responder, shown.idle, rfl⟩

/-- What arrived on its own is discarded. -/
theorem clear {device : Device} (dependable : device.Dependable)
    (idle : device.responder.pending = []) (progress : List (Nat × Nat)) :
    (Port.clear device).1 = .ok () ∧
      Shown (Port.clear device).2 { responder := device.responder, progress } := by
  rw [dependable.clear_eq]
  refine ⟨rfl, ?_, rfl, idle, rfl⟩
  exact { dependable with
    clears := fun error inside => dependable.clears error (List.mem_of_mem_tail inside) }

end Shown

/-- A session over such a device, with the same progress. -/
structure Models (session : Session Device) (console : LineConsole) : Prop where
  shown : Shown session.port console
  progress : session.progress = console.progress

end LineConsole

namespace Procedure

open LineConsole

variable {α β : Type}

/-- A procedure does not fail and does to a device what the machine does to the lines. -/
def Refines (procedure : Procedure Device α) (machine : StateM LineConsole α) : Prop :=
  ∀ session console, Models session console →
    (procedure.run session).1 = .ok (machine.run console).1 ∧
      Models (procedure.run session).2 (machine.run console).2

namespace Refines

theorem pure (value : α) :
    Refines (Pure.pure value : Procedure Device α) (Pure.pure value) :=
  fun _ _ models => ⟨rfl, models⟩

/-- Refinements compose step by step. -/
theorem bind {procedure : Procedure Device α} {machine : StateM LineConsole α}
    {next : α → Procedure Device β} {following : α → StateM LineConsole β}
    (head : Refines procedure machine) (tail : ∀ value, Refines (next value) (following value)) :
    Refines (procedure >>= next) (machine >>= following) := by
  intro session console models
  obtain ⟨same, after⟩ := head session console models
  rw [run_bind]
  rcases outcome : procedure.run session with ⟨error | value, between⟩
  · rw [outcome] at same
    cases same
  · rw [outcome] at same after
    cases same
    exact tail _ _ _ after

/-- A step that the machine does not know may come first. -/
theorem skip {procedure : Procedure Device Unit} {next : Unit → Procedure Device β}
    {machine : StateM LineConsole β} (head : Refines procedure (Pure.pure ()))
    (tail : Refines (next ()) machine) : Refines (procedure >>= next) machine :=
  head.bind fun _ => tail

theorem tell (events : List Event) :
    Refines (Procedure.tell events : Procedure Device Unit) (Pure.pure ()) :=
  fun _ _ models => ⟨rfl, models.shown, models.progress⟩

theorem pause (span : Milliseconds) :
    Refines (Procedure.pause span : Procedure Device Unit) (Pure.pure ()) :=
  fun _ _ models => ⟨rfl, models.shown, models.progress⟩

theorem advance (sent total : Nat) :
    Refines (Procedure.advance sent total : Procedure Device Unit)
      (modify fun console => { console with progress := console.progress ++ [(sent, total)] }) :=
  fun _ _ models =>
    ⟨rfl, ⟨models.shown.dependable, models.shown.responder, models.shown.idle,
      models.shown.queue⟩, congrArg (· ++ [(sent, total)]) models.progress⟩

/-- A command is sent as the far end is asked. -/
theorem send {command : Command} (plain : Command.terminator ∉ command.bytes) :
    Refines (Procedure.send command : Procedure Device Unit) (ask command) := by
  intro session console models
  obtain ⟨delivered, after⟩ := models.shown.deliver plain
  rw [run_send, delivered]
  exact ⟨rfl, after, models.progress⟩

/-- A line is read as it is popped. -/
theorem readLine : Refines (Procedure.readLine : Procedure Device String) pop := by
  intro session console models
  obtain ⟨found, after⟩ := models.shown.readLine
  have kept : (pop.run console).2.progress = console.progress := by
    cases unread : console.unread with
    | nil => rw [run_pop_nil unread]
    | cons line rest => rw [run_pop_cons unread]
  rw [run_readLine]
  rcases outcome : Port.readLine session.port with ⟨error | line, port⟩
  · rw [outcome] at found
    cases found
  · rw [outcome] at found after
    refine ⟨congrArg Except.ok (Except.ok.inj found), after, ?_⟩
    rw [kept]
    exact models.progress

theorem poll (find : String → Option α) (attempts : Nat) :
    Refines (Procedure.poll find attempts : Procedure Device (Option α)) (seek find attempts) := by
  induction attempts with
  | zero => exact .pure none
  | succ attempts ih =>
    rw [poll_succ, seek_succ]
    refine .bind .readLine fun line => ?_
    cases answerIn find line with
    | some found => exact .pure (some found)
    | none => exact ih

/-- An inquiry is one of the machine, which knows neither the wait nor what is told. -/
theorem inquire {command : Command} (plain : Command.terminator ∉ command.bytes)
    (wait : Milliseconds) (find : String → Option α) (attempts : Nat)
    (conclude : Option α → β) (event : β → Event) :
    Refines (Procedure.inquire command wait find attempts conclude event)
      (LineConsole.inquire command find attempts conclude) :=
  .bind (.send plain) fun _ => .skip (.pause _) <|
    .bind (.poll _ _) fun _ => .skip (.tell _) <| .pure _

end Refines

end Procedure

namespace Upload

open Procedure LineConsole

/-- Streaming asks for the lines and pops a line for each. -/
theorem streamFrom_refines (delay : Milliseconds) (total sent : Nat) {lines : List String}
    (plain : ∀ line ∈ lines, Command.terminator ∉ (Command.line line).bytes) :
    Refines (streamFrom delay total sent lines) (LineConsole.streamFrom total sent lines) := by
  induction lines generalizing sent with
  | nil => exact .pure sent
  | cons line lines ih =>
    exact .bind (.send (plain line List.mem_cons_self)) fun _ => .skip (.pause _) <|
      .bind .readLine fun _ => .bind (.advance _ _) fun _ =>
        ih (sent + 1) fun other inside => plain other (List.mem_cons_of_mem line inside)

theorem stream_refines (plan : UploadPlan) {certificate : Certificate}
    (plain : ∀ line ∈ certificate.lines, Command.terminator ∉ (Command.line line).bytes) :
    Refines (stream plan certificate)
      (LineConsole.streamFrom certificate.lineCount 0 certificate.lines) :=
  .skip (.tell _) <| streamFrom_refines _ _ _ plain

theorem transfer_refines (plan : UploadPlan) {certificate : Certificate}
    (plain : ∀ line ∈ certificate.lines, Command.terminator ∉ (Command.line line).bytes) :
    Refines (transfer plan certificate) (LineConsole.transfer plan certificate) := by
  unfold transfer LineConsole.transfer
  rw [finish_eq, verify_eq]
  exact .bind (stream_refines plan plain) fun _ => .bind (.inquire (by decide) _ _ _ _ _) fun _ =>
    .bind (.inquire (by decide) _ _ _ _ _) fun _ => .skip (.tell _) <| .pure _

/-- Behind the begin phase the lines decide as they do in the machine. -/
theorem afterBegin_refines (plan : UploadPlan) {certificate : Certificate}
    (plain : ∀ line ∈ certificate.lines, Command.terminator ∉ (Command.line line).bytes)
    (outcome : BeginOutcome) :
    Refines (afterBegin plan certificate outcome)
      (match outcome with
        | .ready => LineConsole.transfer plan certificate
        | outcome => return .aborted outcome) := by
  cases outcome with
  | ready => exact transfer_refines plan plain
  | refused line => exact .pure _
  | noResponse => exact .pure _

/-- The console of lines that an upload to a device starts with: nothing is unread, since settling
discards what arrived before. -/
def consoleOf (session : Session Device) : LineConsole where
  responder := session.port.responder
  progress := session.progress

/-- Settling makes a dependable device a console of lines. -/
theorem settle_models (plan : UploadPlan) {session : Session Device}
    (dependable : session.port.Dependable) (idle : session.port.responder.pending = []) :
    ((settle plan).run session).1 = .ok () ∧
      Models ((settle plan).run session).2 (consoleOf session) := by
  obtain ⟨cleared, shown⟩ := Shown.clear dependable idle session.progress
  rw [run_settle, run_clearInput]
  exact ⟨cleared, shown, rfl⟩

/-- On a dependable device the phases up to the answer to the begin marker are the first inquiry of
the machine. -/
theorem opening_refines (plan : UploadPlan) (certificate : Certificate) {session : Session Device}
    (dependable : session.port.Dependable) (idle : session.port.responder.pending = []) :
    ((opening plan certificate).run session).1 =
        .ok ((LineConsole.begin plan).run (consoleOf session)).1 ∧
      Models ((opening plan certificate).run session).2
        ((LineConsole.begin plan).run (consoleOf session)).2 := by
  have begins : Refines (begin plan) (LineConsole.begin plan) := by
    rw [begin_eq]
    exact .inquire (by decide) _ _ _ _ _
  let warned : Session Device := ((warnOfSize certificate).run session).2
  obtain ⟨settled, models⟩ : ((settle plan).run warned).1 = .ok () ∧
      Models ((settle plan).run warned).2 (consoleOf session) :=
    settle_models plan dependable idle
  have opened : (opening plan certificate).run session =
      (settle plan >>= fun _ => begin plan).run warned := rfl
  rw [opened, run_bind]
  rcases outcome : (settle plan).run warned with ⟨error | ⟨⟩, after⟩
  · rw [outcome] at settled
    cases settled
  · rw [outcome] at models
    exact begins after (consoleOf session) models

/-- The phases of an upload to a dependable device are the upload to the console of lines. -/
theorem phases_refine (plan : UploadPlan) {certificate : Certificate}
    (plain : ∀ line ∈ certificate.lines, Command.terminator ∉ (Command.line line).bytes)
    {session : Session Device} (dependable : session.port.Dependable)
    (idle : session.port.responder.pending = []) :
    ((phases plan certificate).run session).1 =
        .ok ((LineConsole.upload plan certificate).run (consoleOf session)).1 ∧
      Models ((phases plan certificate).run session).2
        ((LineConsole.upload plan certificate).run (consoleOf session)).2 := by
  obtain ⟨opened, models⟩ := opening_refines plan certificate dependable idle
  rw [phases_eq, run_bind]
  rcases outcome : (opening plan certificate).run session with ⟨error | answer, after⟩
  · rw [outcome] at opened
    cases opened
  · rw [outcome] at opened models
    cases opened
    exact afterBegin_refines plan plain _ after _ models

/-- **An upload to a dependable device is an upload to a console of lines.** It has the same report
and progress, its device has received the same commands, and what is left in the queue are the
bytes of the lines that are left unread. -/
theorem run_refines_lines (plan : UploadPlan) (text : String) (session : Session Device)
    (dependable : session.port.Dependable) (idle : session.port.responder.pending = []) :
    let upload := (run plan (.ofText text)).run session
    let machine := (LineConsole.upload plan (.ofText text)).run (consoleOf session)
    upload.1 = .ok machine.1 ∧
      upload.2.progress = machine.2.progress ∧
      upload.2.port.responder = machine.2.responder ∧
      upload.2.port.queue = (machine.2.unread.flatMap WaitingLine.bytes).map .byte := by
  have plain (line : String) (inside : line ∈ (Certificate.ofText text).lines) :
      Command.terminator ∉ (Command.line line).bytes :=
    commands_plain (List.mem_cons_of_mem _
      (List.mem_append_left _ (List.mem_map_of_mem inside)))
  obtain ⟨reported, models⟩ := phases_refine plan plain dependable idle
  have closed : (Port.close ((phases plan (.ofText text)).run session).2.port).1 = .ok () :=
    models.shown.dependable.close_ok
  have kept (device : Device) : (Port.close device).2.responder = device.responder ∧
      (Port.close device).2.queue = device.queue := ⟨rfl, rfl⟩
  intro upload machine
  have last := run_last plan (.ofText text) session
  refine ⟨?_, ?_, ?_, ?_⟩
  · rw [run_ok reported, closed]
    rfl
  · rw [last]
    exact models.progress
  · rw [last, (kept _).1]
    exact models.shown.responder
  · rw [last, (kept _).2]
    exact models.shown.queue

/-- A device that takes few bytes at a time and answers with several lines, or with none, is a
console of lines. -/
theorem run_refines_lines_short :
    let answers (text : String) : List (List Item) := [(Utf8.encode text.toList).map .byte]
    let device : Device := {
      responder := {
        beginReplies := answers "\nhello\nready to receive\nextra\n"
        finishReplies := answers "certificate saved\n"
        statusReplies := answers "CA: YES\nmore\n" }
      queue := [.byte 0x41, .signal .endOfData]
      writeLimit := some 3
      writes := [.atMost 1, .fail ⟨.interrupted, "again"⟩] }
    let session : Session Device := { port := device }
    session.port.Dependable ∧ session.port.responder.pending = [] ∧
      let upload := (run {} (.ofText "a\nb")).run session
      let machine := (LineConsole.upload {} (.ofText "a\nb")).run (consoleOf session)
      upload.1 = .ok machine.1 ∧
        upload.2.progress = machine.2.progress ∧
        upload.2.port.responder = machine.2.responder ∧
        upload.2.port.queue = (machine.2.unread.flatMap WaitingLine.bytes).map .byte := by
  intro answers device session
  have lines {text : String} (ends : (Utf8.encode text.toList).getLast? = some Port.lineFeed) :
      ∀ reply ∈ answers text, LineReply reply := by
    intro reply inside
    rw [List.mem_singleton.mp inside]
    exact ⟨_, rfl, .inr ends⟩
  have dependable : device.Dependable := {
    isOpen := rfl
    writes := by
      intro rule inside
      rcases List.mem_cons.mp inside with rfl | inside
      · exact Nat.one_pos
      · rw [List.mem_singleton.mp inside]
        rfl
    writeLimit := by decide
    flushes := nofun
    clears := nofun
    closes := nofun
    timeout := by decide
    idle := rfl
    replies := by
      intro kind
      cases kind with
      | begin => exact lines (by decide +kernel)
      | line => exact nofun
      | finish => exact lines (by decide +kernel)
      | status => exact lines (by decide +kernel) }
  exact ⟨dependable, rfl, run_refines_lines {} "a\nb" session dependable rfl⟩

end Upload

end CertConsole
