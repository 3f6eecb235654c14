import CertConsole.Proofs.Attended
import CertConsole.Proofs.Closing
import CertConsole.Proofs.Upkeep

/-!
# The log as a transcript

What an upload tells in its log is what it did. Each command is told before it is sent, so the last
one told may have failed to get through and no other one; each line is told after it was read, so an
empty or a lost one is not told. `Faithful` says so of the messages, and of the verdicts that they
are those of the report. `log_faithful` has it of every upload, also of one that an error ends.
-/
namespace CertConsole

namespace Event

/-- The event is told at a level and its wording opens with a mark. -/
def isMarked (level : Level) (mark : String) (event : Event) : Bool :=
  event.level == level && mark.toList.isPrefixOf event.message.toList

/-- The messages of a level that open with a mark, in order. -/
def messages (level : Level) (mark : String) (events : List Event) : List String :=
  (events.filter (isMarked level mark)).map message

theorem messages_append {level : Level} {mark : String} (before after : List Event) :
    messages level mark (before ++ after) =
      messages level mark before ++ messages level mark after := by
  unfold messages
  rw [List.filter_append, List.map_append]

theorem messages_silent {level : Level} {mark : String} {event : Event}
    (silent : event.isMarked level mark = false) : messages level mark [event] = [] := by
  unfold messages
  rw [List.filter_cons_of_neg (by rw [silent]; exact Bool.false_ne_true)]
  rfl

theorem messages_said {level : Level} {mark : String} {event : Event}
    (said : event.isMarked level mark = true) : messages level mark [event] = [event.message] := by
  unfold messages
  rw [List.filter_cons_of_pos said]
  rfl

/-- A command is told with its mark. -/
theorem isMarked_sending (command : String) : (sending command).isMarked .debug ">> " = true := by
  unfold isMarked message
  simp only [String.toList_append]
  rfl

/-- A line is told with its mark. -/
theorem isMarked_received (line : String) : (received line).isMarked .trace "<< " = true := by
  unfold isMarked message
  simp only [String.toList_append]
  rfl

/-- Neither a notice nor a verdict can be taken for a command or for a line. -/
theorem isMarked_other {event : Event} (other : event.IsNotice ∨ event.isVerdict = true) :
    event.isMarked .debug ">> " = false ∧ event.isMarked .trace "<< " = false := by
  cases event with
  | settling port =>
    refine ⟨?_, rfl⟩
    unfold isMarked message
    simp only [String.toList_append]
    rfl
  | overCapacity | sendingLines | uploadStarted | uploadRefused | uploadUnanswered
  | certificateSaved | saveUnconfirmed | caPresent | caAbsent | caUnreported | uploadConfirmed
  | uploadUnconfirmed => exact ⟨rfl, rfl⟩
  | _ => exact absurd other (by simp [IsNotice, isVerdict])

end Event

/-- The lines that were read and are not empty. -/
def Attended.spoken {σ : Type} (attended : Attended σ) : List String :=
  (attended.lines.filterMap Except.toOption).filter (· ≠ "")

/-- A session whose port is attended from here on. -/
def Session.attended {σ : Type} (session : Session σ) : Session (Attended σ) :=
  { session with port := { port := session.port } }

namespace Upload

open Procedure

/-- All of some commands were received, and nothing more. -/
def Received (start now : Responder) (attempted : List Command) : Prop :=
  now.commands = start.commands ++ attempted.map Command.bytes ∧ now.pending = []

/-- All of some commands but the last one were received: the far end has a part of it, and a write
of the rest, which its terminator is in, failed. -/
def CutShort (start : Responder) (now : Attended Device) (attempted : List Command)
    (error : PortError) : Prop :=
  ∃ earlier last rest, attempted = earlier ++ [last] ∧
    now.port.responder.commands = start.commands ++ earlier.map Command.bytes ∧
    now.port.responder.pending ++ rest = last.encode ∧ now.Stopped rest error

/-- What was told from a moment on tells of the commands that were attempted and of the lines that
were read. -/
structure Transcribes (start : List Event) (session : Session (Attended Device))
    (attempted : List Command) (told : List Event) : Prop where
  log : session.log = start ++ told
  sent : Event.messages .debug ">> " told = attempted.map fun command => ">> " ++ command.text
  heard : Event.messages .trace "<< " told = session.port.spoken.map ("<< " ++ ·)
  between : session.port.line = none

namespace Transcribes

variable {start : List Event} {session : Session (Attended Device)} {attempted : List Command}
  {told : List Event}

/-- Other messages change neither. -/
theorem tell (transcribes : Transcribes start session attempted told) {event : Event}
    (other : event.IsNotice ∨ event.isVerdict = true) :
    Transcribes start { session with log := session.log ++ [event] } attempted
      (told ++ [event]) where
  log := by rw [transcribes.log, List.append_assoc]
  sent := by
    rw [Event.messages_append, Event.messages_silent (Event.isMarked_other other).1,
      List.append_nil, transcribes.sent]
  heard := by
    rw [Event.messages_append, Event.messages_silent (Event.isMarked_other other).2,
      List.append_nil, transcribes.heard]
  between := transcribes.between

/-- A command is told, whatever comes of it. -/
theorem send (transcribes : Transcribes start session attempted told) (command : Command)
    {after : Attended Device} (line : after.line = session.port.line)
    (lines : after.lines = session.port.lines) :
    Transcribes start
      { session with port := after, log := session.log ++ [.sending command.text] }
      (attempted ++ [command]) (told ++ [.sending command.text]) where
  log := by rw [transcribes.log, List.append_assoc]
  sent := by
    rw [Event.messages_append, Event.messages_said (Event.isMarked_sending _), transcribes.sent,
      List.map_append]
    rfl
  heard := by
    rw [Event.messages_append, Event.messages_silent rfl, List.append_nil, transcribes.heard]
    unfold Attended.spoken
    rw [lines]
  between := line.trans transcribes.between

/-- A line that was read is told, unless it is empty. -/
theorem hear (transcribes : Transcribes start session attempted told) (line : String)
    (port : Device) :
    Transcribes start
      { session with
        port := { session.port with port, lines := session.port.lines ++ [.ok line] }
        log := session.log ++ lineEvents line }
      attempted (told ++ lineEvents line) := by
  have said : Event.messages .debug ">> " (lineEvents line) = [] ∧
      Event.messages .trace "<< " (lineEvents line) =
        ([line].filter (· ≠ "")).map ("<< " ++ ·) := by
    unfold lineEvents
    by_cases empty : line = ""
    · subst empty
      exact ⟨rfl, rfl⟩
    · rw [if_neg empty, Event.messages_silent rfl,
        Event.messages_said (Event.isMarked_received line)]
      have kept : [line].filter (· ≠ "") = [line] := List.filter_cons_of_pos (decide_eq_true empty)
      exact ⟨rfl, congrArg (List.map ("<< " ++ ·)) kept.symm⟩
  refine ⟨?_, ?_, ?_, transcribes.between⟩
  · rw [transcribes.log, List.append_assoc]
  · rw [Event.messages_append, said.1, List.append_nil, transcribes.sent]
  · rw [Event.messages_append, said.2, transcribes.heard]
    unfold Attended.spoken
    rw [List.filterMap_append, List.filter_append, List.map_append]
    rfl

/-- A line that was lost is not told. -/
theorem lose (transcribes : Transcribes start session attempted told) (error : ChannelError)
    (port : Device) :
    Transcribes start
      { session with
        port := { session.port with port, lines := session.port.lines ++ [.error error] } }
      attempted told where
  log := transcribes.log
  sent := transcribes.sent
  heard := by
    rw [transcribes.heard]
    unfold Attended.spoken
    rw [List.filterMap_append, List.filter_append, List.map_append]
    exact (List.append_nil _).symm
  between := transcribes.between

end Transcribes

/-- Where an upload stands that was not stopped: all commands that were told were received. -/
def Current (start : Session (Attended Device)) (judged : List Event)
    (session : Session (Attended Device)) : Prop :=
  ∃ attempted told, Transcribes start.log session attempted told ∧
    Received start.port.port.responder session.port.port.responder attempted ∧
    told.filter Event.isVerdict = judged

/-- Where an upload stands that an error stopped: all commands that were told were received, or the
last one was cut short by this error. -/
def Halted (start : Session (Attended Device)) (error : PortError)
    (session : Session (Attended Device)) : Prop :=
  ∃ attempted told, Transcribes start.log session attempted told ∧
    (Received start.port.port.responder session.port.port.responder attempted ∨
      CutShort start.port.port.responder session.port attempted error)

/-- A command that is received after others was received with them. -/
theorem Received.concat {start now after : Responder} {attempted : List Command}
    (received : Received start now attempted) {command : Command}
    (whole : after.commands = now.commands ++ [command.bytes] ∧ after.pending = []) :
    Received start after (attempted ++ [command]) := by
  refine ⟨?_, whole.2⟩
  rw [whole.1, received.1, List.append_assoc, List.map_append]
  rfl

/-- A step that tells no verdict leaves those that were told. -/
theorem judged_append {told more : List Event} {judged : List Event}
    (before : told.filter Event.isVerdict = judged)
    (silent : ∀ event ∈ more, event.isVerdict = false) :
    (told ++ more).filter Event.isVerdict = judged := by
  have nothing : more.filter Event.isVerdict = [] :=
    List.filter_eq_nil_iff.mpr fun event inside => by simp [silent event inside]
  rw [List.filter_append, nothing, List.append_nil, before]

/-- Every step of an upload leaves the log a transcript. -/
theorem current_kept (text : String) (start : Session (Attended Device)) :
    Kept (.ofText text) (Current start) (Halted start) where
  notice judged event other := by
    rintro session ⟨attempted, told, transcribes, received, rfl⟩
    refine ⟨attempted, _, transcribes.tell (.inl other), received, judged_append rfl ?_⟩
    intro same inside
    obtain rfl := List.mem_singleton.mp inside
    cases same <;> first | rfl | exact other.elim
  verdict judged event other := by
    rintro session ⟨attempted, told, transcribes, received, rfl⟩
    refine ⟨attempted, _, transcribes.tell (.inr other), received, ?_⟩
    rw [List.filter_append, List.filter_cons_of_pos other]
    rfl
  advance judged sent total := by
    rintro session ⟨attempted, told, ⟨log, sent, heard, between⟩, rest⟩
    exact ⟨attempted, told, ⟨log, sent, heard, between⟩, rest⟩
  pause judged span := by
    rintro session ⟨attempted, told, ⟨log, sent, heard, between⟩, rest⟩
    exact ⟨attempted, told, ⟨log, sent, heard, between⟩, rest⟩
  send judged command inside := by
    rintro session ⟨attempted, told, transcribes, received, judgedSo⟩
    rcases delivered : Port.deliver command.encode session.port with ⟨result, after⟩
    obtain ⟨⟨line, lines⟩, outcome⟩ :=
      Attended.deliver_attended (commands_plain inside) received.2 delivered
    -- It was told before it was sent, so it is told whatever came of that.
    have transcribed := transcribes.send command line lines
    rw [run_send, delivered]
    cases result with
    | ok _ =>
      rcases outcome with whole | ⟨_, _, failed, _⟩
      · refine ⟨_, _, transcribed, received.concat whole, judged_append judgedSo ?_⟩
        intro event only
        rw [List.mem_singleton.mp only]
        rfl
      · cases failed
    | error error =>
      refine ⟨_, _, transcribed, ?_⟩
      rcases outcome with whole | ⟨_, rest, failed, commands, part, stopped⟩
      · exact .inl (received.concat whole)
      · cases failed
        exact .inr ⟨attempted, command, rest, rfl, commands.trans received.1, part, stopped⟩
  readLine judged := by
    rintro session ⟨attempted, told, transcribes, received, judgedSo⟩
    have silent := session.port.port.readLine_responder
    rw [run_readLine, Attended.readLine_attended transcribes.between]
    rcases read : Port.readLine session.port.port with ⟨error | line, port⟩ <;>
      rw [read] at silent <;> rw [← silent] at received
    · exact ⟨_, _, transcribes.lose error port, .inl received⟩
    · refine ⟨_, _, transcribes.hear line port, received, judged_append judgedSo ?_⟩
      intro event inside
      unfold lineEvents at inside
      split_ifs at inside with empty
      · cases inside
      · rw [List.mem_singleton.mp inside]
        rfl
  clearInput judged := by
    rintro session ⟨attempted, told, ⟨log, sent, heard, between⟩, received, judgedSo⟩
    have silent := session.port.port.clear_responder
    have cleared : Port.clear session.port = ((Port.clear session.port.port).1,
      { session.port with port := (Port.clear session.port.port).2 }) := rfl
    have told' : session.log ++ Port.clearEvents session.port = session.log := List.append_nil _
    rw [run_clearInput, told', cleared]
    rw [← silent] at received
    rcases (Port.clear session.port.port).1 with error | ⟨⟩
    · exact ⟨attempted, told, ⟨log, sent, heard, between⟩, .inl received⟩
    · exact ⟨attempted, told, ⟨log, sent, heard, between⟩, received, judgedSo⟩

/-- What was told in the course of an upload is what happened. -/
structure Faithful (certificate : Certificate) (start : Session Device)
    (result : Except PortError UploadReport) (after : Attended Device) (told : List Event) :
    Prop where
  /-- Debug messages with the mark of commands are the texts of the commands that were attempted, in
  order: the far end received them, but for the last one if its sending failed. -/
  sent : ∃ attempted : List Command,
    Event.messages .debug ">> " told = (attempted.map fun command => ">> " ++ command.text) ∧
      (Received start.port.responder after.port.responder attempted ∨
        ∃ error, result = .error error ∧ CutShort start.port.responder after attempted error)
  /-- Trace messages with the mark of lines are the lines that were read and are not empty, in
  order. -/
  heard : Event.messages .trace "<< " told = after.spoken.map ("<< " ++ ·)
  /-- The first message warns of the size of the certificate exactly if it is too large. -/
  first : told.head? = some (.overCapacity certificate.storedSize) ↔
    Certificate.capacity ≤ certificate.storedSize
  /-- The verdicts are those of the report. -/
  judged : ∀ report, result = .ok report → told.filter Event.isVerdict = verdicts report
  /-- The verdict on an upload that was accepted is the last message. -/
  last : ∀ report, result = .ok report → report.begin = .ready →
    told.getLast? = some (endEvent report)

/-- Closing sends nothing, reads nothing and is not told, so a transcript of the phases is one of
the upload. -/
theorem Transcribes.faithful {certificate : Certificate} {start : Session Device}
    {after : Session (Attended Device)} {attempted : List Command} {told : List Event}
    {first : Event} {result : Except PortError UploadReport}
    (transcribes : Transcribes start.log after attempted told)
    (opened : start.log ++ [first] <+: after.log)
    (warned : first = .overCapacity certificate.storedSize ↔
      Certificate.capacity ≤ certificate.storedSize)
    (sent : Received start.port.responder after.port.port.responder attempted ∨
      ∃ error, result = .error error ∧
        CutShort start.port.responder after.port attempted error)
    (reported : ∀ report, result = .ok report →
      (report.begin = .ready → after.log.getLast? = some (endEvent report)) ∧
        told.filter Event.isVerdict = verdicts report) :
    Faithful certificate start result
      { after.port with port := (Port.close after.port.port).2 } told := by
  have head : told.head? = some first := by
    rw [transcribes.log, List.prefix_append_right_inj] at opened
    exact List.singleton_prefix_iff_head?_eq_some.mp opened
  have present : told ≠ [] := by
    rintro rfl
    cases head
  refine ⟨⟨attempted, transcribes.sent, ?_⟩, transcribes.heard, ?_, ?_, ?_⟩
  · rcases sent with received | ⟨error, failed, earlier, last, rest, split, commands, part, stopped⟩
    · exact .inl received
    · exact .inr ⟨error, failed, earlier, last, rest, split, commands, part, stopped.present,
        stopped.offered⟩
  · rw [head, Option.some.injEq]
    exact warned
  · exact fun report done => (reported report done).2
  · intro report done accepted
    have final := (reported report done).1 accepted
    rw [transcribes.log, List.getLast?_append, List.getLast?_eq_some_getLast present,
      Option.some_or] at final
    rw [List.getLast?_eq_some_getLast present, final]

/-- **The log is a faithful transcript.** Whatever a device in memory with nothing pending does, the
commands that are told are those that were attempted, in order: all that the device received, and at
most one more, if a write of it failed before its terminator was taken. The lines that are told are
exactly those that were read and are not empty. The first message is the warning of the size of the
certificate if there is one, the verdicts are those of the report, and the one on an upload that was
accepted comes last. What was read and what was offered last is what an observer of the port has
written down, who adds the outcome of a line read whenever there is one. -/
theorem log_faithful (plan : UploadPlan) (text : String) (session : Session Device)
    (idle : session.port.responder.pending = []) :
    let certificate := Certificate.ofText text
    let attended := ((run plan certificate).run session.attended).2.port
    (∃ told, ((run plan certificate).run session).2.log = session.log ++ told ∧
      Faithful certificate session ((run plan certificate).run session).1 attended told) ∧
    attended.port = ((run plan certificate).run session).2.port ∧
    ∀ observed : Attended Device, observed.line = none →
      Port.readLine observed = ((Port.readLine observed.port).1,
        { observed with
          port := (Port.readLine observed.port).2
          lines := observed.lines ++ [(Port.readLine observed.port).1] }) := by
  intro certificate attended
  obtain ⟨same, mirrored, log, -⟩ :=
    run_simulates Attended.attends_simulation plan certificate session.attended session
      ⟨rfl, rfl, rfl⟩
  refine ⟨?_, mirrored, fun _ between => Attended.readLine_attended between⟩
  rw [← log, ← same]
  have start : Current session.attended [] session.attended :=
    ⟨[], [], ⟨(List.append_nil _).symm, rfl, rfl, rfl⟩, ⟨(List.append_nil _).symm, idle⟩, rfl⟩
  have phased := (current_kept text session.attended).phases plan _ start
  obtain ⟨first, opened, warned⟩ := phases_first plan certificate session.attended
  -- Closing comes after the phases and changes neither what they told nor what was observed.
  have last := run_last plan certificate session.attended
  rcases outcome : (phases plan certificate).run session.attended with ⟨error | report, after⟩ <;>
    rw [outcome] at phased opened last <;>
    have closed : attended = { after.port with port := (Port.close after.port.port).2 } :=
      congrArg Session.port last <;>
    have silent := (congrArg Session.log last).trans (List.append_nil after.log) <;>
    rw [silent, closed]
  · obtain ⟨attempted, told, transcribes, sent⟩ := phased
    have failed := run_error (congrArg Prod.fst outcome)
    refine ⟨told, transcribes.log, transcribes.faithful opened warned ?_ ?_⟩
    · rcases sent with received | cut
      · exact .inl received
      · exact .inr ⟨error, failed, cut⟩
    · intro report done
      cases failed.symm.trans done
  · obtain ⟨ended, attempted, told, transcribes, received, judged⟩ := phased
    refine ⟨told, transcribes.log, transcribes.faithful opened warned (.inl received) ?_⟩
    intro report' done
    cases (congrArg Prod.fst outcome).symm.trans (run_reports done).1
    exact ⟨ended, judged⟩

/-- A device that answers at once, with a blank line ahead of its save confirmation. -/
theorem log_faithful_saved :
    let bytes (text : String) : List Item := (Utf8.encode text.toList).map .byte
    let device : Device := { responder := {
      beginReplies := [bytes "ready to receive\n"]
      finishReplies := [bytes "\ncertificate saved\n"] } }
    let session : Session Device := { port := device }
    let certificate := Certificate.ofText "a\nb"
    let after := ((run {} certificate).run session.attended).2.port
    device.responder.pending = [] ∧
      ∃ told, ((run {} certificate).run session).2.log = told ∧
        Faithful certificate session (.ok ⟨.ready, 2, true, .notReported⟩) after told ∧
        after.spoken = ["ready to receive", "certificate saved"] := by
  intro bytes device session certificate after
  obtain ⟨⟨told, log, faithful⟩, -⟩ := log_faithful {} "a\nb" session rfl
  have done : ((run {} certificate).run session).1 = .ok ⟨.ready, 2, true, .notReported⟩ := by
    decide +kernel
  rw [done] at faithful
  exact ⟨rfl, told, log, faithful, by decide +kernel⟩

end Upload

end CertConsole
