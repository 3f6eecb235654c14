import CertConsole.Proofs.WireTrace

/-!
# What a receiver makes of an upload

The markers and the certificate lines share one setting, and nothing on the wire but their text
tells them apart: a line that reads `BEGIN` or `END` is that marker (`line_is_marker`). Of every
other command the bytes have one reading, so a receiver that obeys each command as it arrives stores
a certificate without such a line exactly (`content_apart`).
-/
namespace CertConsole

namespace Command

/-- What stands in front of a marker or a certificate line in the text of its command. -/
def contentFront : String := "set " ++ uploadSetting ++ " "

end Command

/-- What a command means to a device that takes an upload. -/
inductive Frame where
  /-- The transfer is opened. -/
  | opening
  /-- One line of content. -/
  | content (bytes : List UInt8)
  /-- What was received is kept. -/
  | ending
  deriving DecidableEq, Repr

namespace Frame

/-- What stands in front of markers and content. -/
def front : List UInt8 := Utf8.encode Command.contentFront.toList

/-- The meaning of a command. The markers are judged first, what follows the name of the setting is
content, and any other command is none of the transfer. -/
def ofCommand? (command : List UInt8) : Option Frame :=
  if command = Command.begin.bytes then some .opening
  else if command = Command.finish.bytes then some .ending
  else if front.isPrefixOf command then some (.content (command.drop front.length))
  else none

end Frame

/-- A device that takes uploads. -/
structure Receiver where
  /-- The bytes received after the last terminator. -/
  pending : List UInt8 := []
  /-- What it was told, in order. -/
  frames : List Frame := []
  /-- The content since the transfer was opened, each line with one line feed. -/
  content : List UInt8 := []
  /-- What each end marker made it keep. -/
  kept : List (List UInt8) := []
  deriving DecidableEq, Repr

namespace Receiver

/-- Do what a frame says. -/
def take (frame : Frame) (receiver : Receiver) : Receiver :=
  let told := { receiver with frames := receiver.frames ++ [frame] }
  match frame with
  | .opening => { told with content := [] }
  | .content bytes => { told with content := receiver.content ++ bytes ++ [Port.lineFeed] }
  | .ending => { told with kept := receiver.kept ++ [receiver.content] }

/-- Obey a command, if it is one of the transfer. -/
def obey (command : List UInt8) (receiver : Receiver) : Receiver :=
  match Frame.ofCommand? command with
  | some frame => receiver.take frame
  | none => receiver

/-- One byte arrives. A terminator completes a command, which is obeyed at once. -/
def hearByte (receiver : Receiver) (byte : UInt8) : Receiver :=
  if byte = Command.terminator then
    { receiver.obey receiver.pending with pending := [] }
  else { receiver with pending := receiver.pending ++ [byte] }

/-- Bytes arrive one after the other. -/
def hear (receiver : Receiver) (bytes : List UInt8) : Receiver := bytes.foldl hearByte receiver

end Receiver

namespace Command

/-- The encoding of a command is its bytes and the terminator. -/
theorem encode_eq (command : Command) : command.encode = command.bytes ++ [terminator] := rfl

/-- Commands with the same encoding have the same text. -/
theorem text_eq_of_encode {left right : Command} (same : left.encode = right.encode) :
    left.text = right.text := by
  rw [encode_eq, encode_eq] at same
  have bytes : left.bytes = right.bytes := List.append_cancel_right same
  exact String.toList_inj.mp (Utf8.encode_injective bytes)

/-- Behind the name of the setting nothing but the content is left of the text of a line. -/
theorem line_text_eq {content rest : String}
    (same : (Command.line content).text = contentFront ++ rest) : content = rest := by
  have characters := congrArg String.toList same
  change (contentFront ++ content).toList = (contentFront ++ rest).toList at characters
  rw [String.toList_append, String.toList_append] at characters
  exact String.toList_inj.mp (List.append_cancel_left characters)

/-- A certificate line is not the status query: it sets and does not get. -/
theorem line_ne_status (content : String) : (Command.line content).text ≠ Command.status.text := by
  intro same
  have sets : contentFront.toList.head? = some 's' := by decide
  have gets : Command.status.text.toList.head? = some 'g' := by decide
  have characters : (contentFront ++ content).toList = Command.status.text.toList :=
    congrArg String.toList same
  rw [← characters, String.toList_append, List.head?_append, sets, Option.some_or] at gets
  exact absurd gets (by decide)

/-- The command is no certificate line that reads like a marker. -/
def Unmistakable : Command → Prop
  | .line content => content ≠ "BEGIN" ∧ content ≠ "END"
  | _ => True

/-- A certificate line is the begin marker exactly when it reads like it. -/
theorem line_encode_begin (content : String) :
    (Command.line content).encode = Command.begin.encode ↔ content = "BEGIN" := by
  constructor
  · intro same
    exact line_text_eq (text_eq_of_encode same)
  · rintro rfl
    rfl

/-- A certificate line is the end marker exactly when it reads like it. -/
theorem line_encode_finish (content : String) :
    (Command.line content).encode = Command.finish.encode ↔ content = "END" := by
  constructor
  · intro same
    exact line_text_eq (text_eq_of_encode same)
  · rintro rfl
    rfl

end Command

namespace Command

/-- The encodings of two commands differ unless they are one, or one is a line that reads like the
other. -/
theorem encode_injective {left right : Command} (clear : left.Unmistakable)
    (apart : right.Unmistakable) (same : left.encode = right.encode) : left = right := by
  have texts := text_eq_of_encode same
  -- Only two lines, or two commands of one kind, are left: all other pairs have different texts.
  cases left with
  | line content =>
    cases right with
    | line other => exact congrArg Command.line (line_text_eq texts)
    | begin => exact absurd (line_text_eq texts) clear.1
    | finish => exact absurd (line_text_eq texts) clear.2
    | status => exact absurd texts (line_ne_status content)
  | begin =>
    cases right with
    | line other => exact absurd (line_text_eq texts.symm) apart.1
    | begin => rfl
    | finish => exact absurd texts (by decide)
    | status => exact absurd texts (by decide)
  | finish =>
    cases right with
    | line other => exact absurd (line_text_eq texts.symm) apart.2
    | begin => exact absurd texts (by decide)
    | finish => rfl
    | status => exact absurd texts (by decide)
  | status =>
    cases right with
    | line other => exact absurd texts.symm (line_ne_status other)
    | begin => exact absurd texts (by decide)
    | finish => exact absurd texts (by decide)
    | status => rfl

end Command

namespace Frame

/-- What a command of an upload means: a line is content, and the status query means nothing. -/
def ofCommand : Command → Option Frame
  | .begin => some .opening
  | .line text => some (.content (Utf8.encode text.toList))
  | .finish => some .ending
  | .status => none

/-- A command that is not mistakable is read as what it means. -/
theorem ofCommand?_bytes {command : Command} (clear : command.Unmistakable) :
    ofCommand? command.bytes = ofCommand command := by
  cases command with
  | begin => decide +kernel
  | finish => decide +kernel
  | status => decide +kernel
  | line content =>
    have whole : (Command.line content).bytes = front ++ Utf8.encode content.toList := by
      change Utf8.encode (Command.contentFront ++ content).toList = _
      rw [String.toList_append, Utf8.encode_append]
      rfl
    have notBegin : (Command.line content).bytes ≠ Command.begin.bytes := by
      intro same
      exact clear.1 ((Command.line_encode_begin content).mp (congrArg (· ++ _) same))
    have notEnd : (Command.line content).bytes ≠ Command.finish.bytes := by
      intro same
      exact clear.2 ((Command.line_encode_finish content).mp (congrArg (· ++ _) same))
    have inFront : front.isPrefixOf (Command.line content).bytes = true := by
      rw [whole, List.isPrefixOf_iff_prefix]
      exact List.prefix_append _ _
    rw [ofCommand?, if_neg notBegin, if_neg notEnd, if_pos inFront, whole, List.drop_left]
    rfl

end Frame

namespace Receiver

/-- What arrives in two parts is heard part after part. -/
theorem hear_append (receiver : Receiver) (before after : List UInt8) :
    receiver.hear (before ++ after) = (receiver.hear before).hear after :=
  List.foldl_append

/-- Bytes without a terminator stay pending. -/
theorem hear_plain {bytes : List UInt8} (plain : Command.terminator ∉ bytes)
    (receiver : Receiver) :
    receiver.hear bytes = { receiver with pending := receiver.pending ++ bytes } := by
  induction bytes generalizing receiver with
  | nil =>
    rw [List.append_nil]
    rfl
  | cons byte bytes ih =>
    have inner : byte ≠ Command.terminator := fun same => plain (same ▸ List.mem_cons_self)
    have rest := ih (fun inside => plain (List.mem_cons_of_mem byte inside))
    change (receiver.hearByte byte).hear bytes = _
    rw [hearByte, if_neg inner, rest]
    simp only [List.append_assoc, List.singleton_append]

/-- Obeying leaves nothing pending where nothing was. -/
theorem obey_idle {receiver : Receiver} (idle : receiver.pending = []) (command : List UInt8) :
    (receiver.obey command).pending = [] := by
  unfold obey
  rcases Frame.ofCommand? command with _ | _ | _ | _ <;> exact idle

/-- A receiver with nothing pending obeys a command once its terminator has arrived. -/
theorem hear_command {bytes : List UInt8} (plain : Command.terminator ∉ bytes)
    {receiver : Receiver} (idle : receiver.pending = []) :
    receiver.hear (bytes ++ [Command.terminator]) = receiver.obey bytes := by
  have obeyed (receiver : Receiver) (command : List UInt8) :
      { receiver with pending := command }.obey command =
        { receiver.obey command with pending := command } := by
    unfold obey
    rcases Frame.ofCommand? command with _ | _ | _ | _ <;> rfl
  rw [hear_append, hear_plain plain, idle, List.nil_append]
  change Receiver.hearByte { receiver with pending := bytes } Command.terminator = _
  rw [hearByte, if_pos rfl, obeyed]
  change { receiver.obey bytes with pending := [] } = _
  rw [← obey_idle idle bytes]

/-- Commands that are not mistakable are heard as what they mean, one after the other. -/
theorem hear_commands {commands : List Command}
    (plain : ∀ command ∈ commands, Command.terminator ∉ command.bytes)
    (clear : ∀ command ∈ commands, command.Unmistakable)
    {receiver : Receiver} (idle : receiver.pending = []) :
    receiver.hear (commands.flatMap Command.encode) =
      (commands.filterMap Frame.ofCommand).foldl (fun state frame => state.take frame)
        receiver := by
  induction commands generalizing receiver with
  | nil => rfl
  | cons command commands ih =>
    have own := plain command List.mem_cons_self
    have meant := Frame.ofCommand?_bytes (clear command List.mem_cons_self)
    have later := ih (fun other inside => plain other (List.mem_cons_of_mem command inside))
      (fun other inside => clear other (List.mem_cons_of_mem command inside))
      (obey_idle idle command.bytes)
    rw [List.flatMap_cons, hear_append, Command.encode_eq, hear_command own idle, later, obey,
      meant]
    cases told : Frame.ofCommand command with
    | none => rw [List.filterMap_cons_none told]
    | some frame => rw [List.filterMap_cons_some told, List.foldl_cons]

/-- Content lines are collected, each with a line feed. -/
theorem take_content (lines : List (List UInt8)) (receiver : Receiver) :
    (lines.map Frame.content).foldl (fun state frame => state.take frame) receiver =
      { receiver with
        frames := receiver.frames ++ lines.map .content
        content := receiver.content ++ lines.flatMap (· ++ [Port.lineFeed]) } := by
  induction lines generalizing receiver with
  | nil => simp only [List.map_nil, List.foldl_nil, List.flatMap_nil, List.append_nil]
  | cons line lines ih =>
    rw [List.map_cons, List.foldl_cons, ih, List.flatMap_cons]
    simp only [take, List.append_assoc, List.singleton_append]

end Receiver

/-- What a device stores of a certificate: each line with one line feed. -/
def Certificate.stored (certificate : Certificate) : List UInt8 :=
  certificate.lines.flatMap fun line => Utf8.encode line.toList ++ [Port.lineFeed]

namespace Upload

/-- What the commands of an upload tell a receiver. -/
def frames (certificate : Certificate) : List Frame :=
  .opening :: (certificate.lines.map (fun line => .content (Utf8.encode line.toList)) ++ [.ending])

/-- The commands of an upload mean an opening, the lines and an ending. -/
theorem filterMap_commands (certificate : Certificate) :
    (commands certificate).filterMap Frame.ofCommand = frames certificate := by
  have lines : (certificate.lines.map Command.line).filterMap Frame.ofCommand =
      certificate.lines.map fun line => .content (Utf8.encode line.toList) := by
    rw [List.filterMap_map]
    exact congrFun List.filterMap_eq_map' _
  have opens : Frame.ofCommand .begin = some .opening := rfl
  have closing : [Command.finish, .status].filterMap Frame.ofCommand = [.ending] := rfl
  rw [commands, List.filterMap_cons_some opens, List.filterMap_append, lines, closing]
  rfl

/-- Frames of an upload make a receiver keep the certificate once. -/
theorem take_frames (certificate : Certificate) (receiver : Receiver) :
    (frames certificate).foldl (fun state frame => state.take frame) receiver = {
      receiver with
      frames := receiver.frames ++ frames certificate
      content := certificate.stored
      kept := receiver.kept ++ [certificate.stored] } := by
  have contents : certificate.lines.map (fun line => Frame.content (Utf8.encode line.toList)) =
      (certificate.lines.map fun line => Utf8.encode line.toList).map .content := by
    rw [List.map_map]
    rfl
  have stored : (certificate.lines.map fun line => Utf8.encode line.toList).flatMap
      (· ++ [Port.lineFeed]) = certificate.stored := by
    rw [List.flatMap_map]
    rfl
  rw [frames, List.foldl_cons, List.foldl_append, contents, Receiver.take_content, stored]
  simp only [Receiver.take, List.foldl_cons, List.foldl_nil, List.nil_append, List.append_assoc,
    List.cons_append]

/-- A receiver that hears all commands of a certificate without a line that reads like a marker
keeps the certificate. -/
theorem hear_wire {text : String}
    (ordinary : ∀ line ∈ (Certificate.ofText text).lines, line ≠ "BEGIN" ∧ line ≠ "END")
    {receiver : Receiver} (idle : receiver.pending = []) :
    receiver.hear (wire (.ofText text)) = {
      receiver with
      frames := receiver.frames ++ frames (.ofText text)
      content := (Certificate.ofText text).stored
      kept := receiver.kept ++ [(Certificate.ofText text).stored] } := by
  have clear (command : Command) (inside : command ∈ commands (.ofText text)) :
      command.Unmistakable := by
    cases command with
    | line content =>
      simp only [commands, List.mem_cons, List.mem_append, List.mem_map, reduceCtorEq,
        Command.line.injEq, exists_eq_right, List.not_mem_nil, or_false, false_or] at inside
      exact ordinary content inside
    | begin => trivial
    | finish => trivial
    | status => trivial
  have heard := Receiver.hear_commands (fun _ inside => commands_plain inside) clear idle
  rw [wire, heard, filterMap_commands, take_frames]

/-- **Content that does not read like a marker is never taken for one.** A certificate line is the
begin or the end marker on the wire exactly when it reads `BEGIN` or `END`, and it never is the
status query; apart from these two, commands are known by their bytes. So when no line of a text
reads like a marker, and an upload of it over any port ends with a device that was ready, a receiver
that obeys each command as it arrives is told one opening, the lines in their order and one ending,
and keeps exactly the lines, each with one line feed. -/
theorem content_apart (plan : UploadPlan) (text : String) :
    (∀ line ∈ (Certificate.ofText text).lines,
      ((Command.line line).encode = Command.begin.encode ↔ line = "BEGIN") ∧
      ((Command.line line).encode = Command.finish.encode ↔ line = "END") ∧
      (Command.line line).encode ≠ Command.status.encode) ∧
    (∀ left right : Command, left.Unmistakable → right.Unmistakable →
      left.encode = right.encode → left = right) ∧
    ((∀ line ∈ (Certificate.ofText text).lines, line ≠ "BEGIN" ∧ line ≠ "END") →
      ∀ {σ : Type} [Port σ] (session : Session σ) (report : UploadReport),
        ((phases plan (.ofText text)).run session).1 = .ok report → report.begin = .ready →
        ∀ receiver : Receiver, receiver.pending = [] →
          receiver.hear (acceptedBytes (operations plan (.ofText text) session)) = {
            receiver with
            frames := receiver.frames ++ frames (.ofText text)
            content := (Certificate.ofText text).stored
            kept := receiver.kept ++ [(Certificate.ofText text).stored] }) := by
  refine ⟨fun line _ => ⟨Command.line_encode_begin line, Command.line_encode_finish line, ?_⟩,
    fun left right clear apart => Command.encode_injective clear apart, ?_⟩
  · intro same
    exact Command.line_ne_status line (Command.text_eq_of_encode same)
  · intro ordinary σ _ session report done ready receiver idle
    obtain ⟨sent, orderly, -, whole⟩ := phaseOperations_orderly plan (.ofText text) session
    have all : sent = wire (.ofText text) := by
      rw [whole report done, if_pos ready]
    rw [done] at orderly
    rw [acceptedBytes_operations, orderly.acceptsAll rfl, all]
    exact hear_wire ordinary idle

/-- Lines that only begin like a marker, or have a blank behind it, are content. -/
theorem content_apart_ending :
    let text := "END \nBEGINNING\r\nend"
    let device : Device := { responder := {
      beginReplies := [(Utf8.encode "ready to receive\n".toList).map .byte] } }
    let session : Session Device := { port := device }
    (∀ line ∈ (Certificate.ofText text).lines, line ≠ "BEGIN" ∧ line ≠ "END") ∧
      ((phases {} (.ofText text)).run session).1 = .ok ⟨.ready, 3, false, .notReported⟩ ∧
      (({} : Receiver).hear (acceptedBytes (operations {} (.ofText text) session))).kept =
        [Utf8.encode "END \nBEGINNING\nend\n".toList] := by
  intro text device session
  have ordinary : ∀ line ∈ (Certificate.ofText text).lines, line ≠ "BEGIN" ∧ line ≠ "END" := by
    decide +kernel
  have done : ((phases {} (.ofText text)).run session).1 =
      .ok ⟨.ready, 3, false, .notReported⟩ := by decide +kernel
  have kept := (content_apart {} text).2.2 ordinary session _ done rfl {} rfl
  refine ⟨ordinary, done, ?_⟩
  rw [kept]
  decide +kernel

/-- A certificate line that reads `END` is the end marker: a receiver that hears the commands of
such a certificate is told two endings and keeps a certificate that is cut off there. -/
theorem line_is_marker :
    let certificate := Certificate.ofText "a\nEND\nb"
    "END" ∈ certificate.lines ∧ (Command.line "END").encode = Command.finish.encode ∧
      ((Receiver.hear {} (wire certificate)).frames =
        [.opening, .content (Utf8.encode ['a']), .ending, .content (Utf8.encode ['b']), .ending]) ∧
      (Receiver.hear {} (wire certificate)).kept =
        [Utf8.encode "a\n".toList, Utf8.encode "a\nb\n".toList] := by
  decide +kernel

end Upload

end CertConsole
