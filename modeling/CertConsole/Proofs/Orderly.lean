import CertConsole.Proofs.Recording

/-!
# Orderly operations

What the steps of an upload do to a port between its opening and its closing: the bytes that it
takes are those of the commands in their order, the first operation that fails is the last one, and
none closes the port. The law is stated once for a run of operations (`Orderly`), it composes, and
every step of an upload is proved to follow it. What goes over the wire and what a failure leads to
are both read off it.
-/
namespace CertConsole

/-- Operations of which none fails, or only the last one does and with the given error. -/
inductive Stops : List Operation → Option PortError → Prop
  /-- No operation fails. -/
  | never {operations : List Operation}
    (fine : ∀ operation ∈ operations, operation.failure? = none) : Stops operations none
  /-- The last operation fails. -/
  | last {operations : List Operation} {operation : Operation} {error : PortError}
    (fine : ∀ operation ∈ operations, operation.failure? = none)
    (failed : operation.failure? = some error) : Stops (operations ++ [operation]) (some error)

/-- One operation that does not close the port leaves it open. -/
theorem Operation.stays_open (operation : Operation) (opened : operation.closes = false)
    (result : Except PortError Unit) : .close result ∉ [operation] := by
  intro inside
  rw [← List.mem_singleton.mp inside] at opened
  cases opened

/-- Operations that hand over some bytes, or a part from their front if one of them fails. -/
structure Orderly (wire : List UInt8) (operations : List Operation) (failure : Option PortError) :
    Prop where
  /-- Nothing is done after a failure. -/
  stops : Stops operations failure
  /-- The port is not closed. -/
  staysOpen : ∀ result, .close result ∉ operations
  /-- Nothing but the bytes is handed over, from the front. -/
  accepts : acceptedBytes operations <+: wire
  /-- All bytes are handed over unless an operation fails. -/
  acceptsAll : failure = none → acceptedBytes operations = wire

/-- Operations on end hand over bytes on end. -/
theorem acceptedBytes_append (before after : List Operation) :
    acceptedBytes (before ++ after) = acceptedBytes before ++ acceptedBytes after :=
  List.flatMap_append

/-- Operations without a failure are followed by others until one fails. -/
theorem Stops.append {before after : List Operation} {failure : Option PortError}
    (head : Stops before none) (tail : Stops after failure) : Stops (before ++ after) failure := by
  cases head with
  | never fine =>
    cases tail with
    | never later =>
      refine .never fun operation inside => ?_
      rcases List.mem_append.mp inside with early | late
      · exact fine operation early
      · exact later operation late
    | last later failed =>
      rw [← List.append_assoc]
      refine .last (fun operation inside => ?_) failed
      rcases List.mem_append.mp inside with early | late
      · exact fine operation early
      · exact later operation late

/-- Behind an operation that fails nothing is done, and its error is the one that is given. -/
theorem Stops.first {operations before after : List Operation} {operation : Operation}
    {failure : Option PortError} {error : PortError} (stops : Stops operations failure)
    (cut : operations = before ++ operation :: after)
    (failed : operation.failure? = some error) : after = [] ∧ failure = some error := by
  cases stops with
  | never fine =>
    have member : operation ∈ operations := by simp [cut]
    rw [fine operation member] at failed
    cases failed
  | @last fineOperations final _ fine failed' =>
    rcases List.eq_nil_or_concat after with rfl | ⟨middle, behind, rfl⟩
    · obtain ⟨-, same⟩ := List.append_inj' cut rfl
      obtain rfl := List.singleton_inj.mp same
      exact ⟨rfl, failed'.symm.trans failed⟩
    · have longer : fineOperations ++ [final] = (before ++ operation :: middle) ++ [behind] := by
        rw [cut, List.concat_eq_append, List.append_assoc, List.cons_append]
      have member : operation ∈ fineOperations := by
        rw [(List.append_inj' longer rfl).1]
        simp
      rw [fine operation member] at failed
      cases failed

/-- Where no operation fails none has stopped the others. -/
theorem Stops.fine {operations : List Operation} {failure : Option PortError}
    (stops : Stops operations failure)
    (fine : ∀ operation ∈ operations, operation.failure? = none) : failure = none := by
  cases stops with
  | never => rfl
  | @last _ final _ _ failed =>
    rw [fine final (by simp)] at failed
    cases failed

namespace Orderly

/-- No operations hand over nothing. -/
theorem nil : Orderly [] [] none where
  stops := .never (by simp)
  staysOpen := by simp
  accepts := List.prefix_refl []
  acceptsAll _ := rfl

/-- Orderly operations that did not fail can be continued. -/
theorem append {first second : List UInt8} {before after : List Operation}
    {failure : Option PortError} (head : Orderly first before none)
    (tail : Orderly second after failure) :
    Orderly (first ++ second) (before ++ after) failure where
  stops := head.stops.append tail.stops
  staysOpen result inside := by
    rcases List.mem_append.mp inside with early | late
    · exact head.staysOpen result early
    · exact tail.staysOpen result late
  accepts := by
    rw [acceptedBytes_append, head.acceptsAll rfl]
    exact (List.prefix_append_right_inj first).mpr tail.accepts
  acceptsAll fine := by
    rw [acceptedBytes_append, head.acceptsAll rfl, tail.acceptsAll fine]

/-- Operations that failed have handed over a part of anything that begins with their bytes. -/
theorem cut {wire more : List UInt8} {operations : List Operation} {error : PortError}
    (orderly : Orderly wire operations (some error)) :
    Orderly (wire ++ more) operations (some error) where
  stops := orderly.stops
  staysOpen := orderly.staysOpen
  accepts := orderly.accepts.trans (List.prefix_append wire more)
  acceptsAll fine := by cases fine

end Orderly

/-- The error of a result, if it is one. -/
def failureOf {α : Type} : Except PortError α → Option PortError
  | .ok _ => none
  | .error error => some error

namespace Recorded

variable {σ : Type}

/-- What was entered in a record between two states of it is orderly. -/
def Sends (wire : List UInt8) (failure : Option PortError) (before after : Recorded σ) : Prop :=
  ∃ operations, after.operations = before.operations ++ operations ∧
    Orderly wire operations failure

namespace Sends

/-- Where nothing was entered nothing was handed over. -/
theorem refl {before after : Recorded σ} (same : after.operations = before.operations) :
    Sends [] none before after :=
  ⟨[], by rw [same, List.append_nil], .nil⟩

/-- Records compose. -/
theorem trans {first second : List UInt8} {failure : Option PortError}
    {before between after : Recorded σ} (head : Sends first none before between)
    (tail : Sends second failure between after) :
    Sends (first ++ second) failure before after := by
  obtain ⟨early, entered, orderly⟩ := head
  obtain ⟨late, entered', orderly'⟩ := tail
  refine ⟨early ++ late, ?_, orderly.append orderly'⟩
  rw [entered', entered, List.append_assoc]

/-- A failure cuts whatever was to be sent. -/
theorem cut {wire more : List UInt8} {error : PortError} {before after : Recorded σ}
    (sends : Sends wire (some error) before after) :
    Sends (wire ++ more) (some error) before after := by
  obtain ⟨operations, entered, orderly⟩ := sends
  exact ⟨operations, entered, orderly.cut⟩

/-- One operation that does not fail hands over what it says. -/
theorem one {before after : Recorded σ} {operation : Operation}
    (entered : after.operations = before.operations ++ [operation])
    (opened : operation.closes = false) (fine : operation.failure? = none) :
    Sends operation.accepted none before after := by
  have all : acceptedBytes [operation] = operation.accepted := List.append_nil _
  refine ⟨[operation], entered, .never ?_, operation.stays_open opened, ⟨[], ?_⟩, fun _ => all⟩
  · intro other inside
    rw [List.mem_singleton.mp inside]
    exact fine
  · rw [all, List.append_nil]

/-- One operation that fails hands over nothing. -/
theorem failing {wire : List UInt8} {before after : Recorded σ} {operation : Operation}
    {error : PortError} (entered : after.operations = before.operations ++ [operation])
    (opened : operation.closes = false) (failed : operation.failure? = some error)
    (empty : operation.accepted = []) : Sends wire (some error) before after := by
  have alone : Stops ([] ++ [operation]) (some error) := .last (by simp) failed
  refine ⟨[operation], entered, alone, operation.stays_open opened, ?_, ?_⟩
  · rw [show acceptedBytes [operation] = operation.accepted from List.append_nil _, empty]
    exact List.nil_prefix
  · intro fine
    cases fine

end Sends

variable [Port σ]

/-- Writing a buffer hands it over, or a part of it until a write fails. -/
theorem writeAll_sends (bytes : List UInt8) (record : Recorded σ) :
    Sends bytes (failureOf ((Port.writeAll bytes record).1.mapError .channel)) record
      (Port.writeAll bytes record).2 := by
  -- One case for each outcome of a write: what it took comes first, the rest is the hypothesis.
  induction bytes, record using Port.writeAll.induct with
  | case1 record =>
    rw [Port.writeAll_nil]
    exact .refl rfl
  | case2 record byte rest next result =>
    have entered := write_entered result
    rw [Port.writeAll_cons, result]
    exact .failing entered rfl rfl rfl
  | case3 record byte rest count next result _ ih =>
    have entered := write_entered result
    have step := Sends.one entered rfl rfl
    have whole : (byte :: rest).take (count + 1) ++ rest.drop count = byte :: rest := by
      rw [List.take_succ_cons, List.cons_append, List.take_append_drop]
    rw [Port.writeAll_cons, result]
    rw [← whole]
    exact step.trans ih
  | case4 record byte rest error next result interrupted _ ih =>
    have entered := write_entered result
    have step := Sends.one entered rfl (if_pos interrupted)
    rw [Port.writeAll_cons, result]
    simp only [interrupted, ↓reduceIte]
    exact step.trans ih
  | case5 record byte rest error next result fatal =>
    have entered := write_entered result
    rw [Port.writeAll_cons, result]
    simp only [fatal, ↓reduceIte]
    exact .failing entered rfl (if_neg fatal) rfl

/-- Delivering a buffer hands it over, or a part of it until a write fails, and flushes it. -/
theorem deliver_sends (bytes : List UInt8) (record : Recorded σ) :
    Sends bytes (failureOf ((Port.deliver bytes record).1.mapError .channel)) record
      (Port.deliver bytes record).2 := by
  have written := writeAll_sends bytes record
  rw [Port.deliver_eq]
  rcases outcome : Port.writeAll bytes record with ⟨error | ⟨⟩, next⟩
  · rw [outcome] at written
    exact written
  · rw [outcome] at written
    have entered : (Port.flush next).2.operations =
        next.operations ++ [.flush (Port.flush next).1] := rfl
    change Sends bytes (failureOf ((Port.flush next).1.mapError .channel)) record
      (Port.flush next).2
    rcases flushed : (Port.flush next).1 with error | ⟨⟩
    · have failing : Sends [] (some (.channel error)) next (Port.flush next).2 :=
        .failing entered rfl (by rw [flushed]; rfl) rfl
      have sends := written.trans failing
      rw [List.append_nil] at sends
      exact sends
    · have step := Sends.one entered rfl (by rw [flushed]; rfl)
      have sends := written.trans step
      rw [show Operation.accepted (.flush (Port.flush next).1) = [] from rfl,
        List.append_nil] at sends
      exact sends

/-- A read fails exactly when the verdict on what it found is that the line is lost. -/
theorem read_failure (found : ReadResult) :
    (Operation.read found).failure? =
      match Port.verdict found with
      | .fails error => some (.channel error)
      | _ => none := by
  cases found with
  | byte byte =>
    by_cases last : byte = Port.lineFeed <;> simp [Operation.failure?, Port.verdict, last]
  | nothing => rfl
  | failed error =>
    by_cases interrupted : error.kind = .interrupted
    · simp [Operation.failure?, Port.verdict, interrupted]
    · cases silent : error.isSilence <;>
        simp [Operation.failure?, Port.verdict, interrupted, silent]

/-- Collecting a line hands over nothing. -/
theorem collectLine_sends (patience : Nat) (record : Recorded σ) :
    Sends [] (failureOf ((Port.collectLine patience record).1.mapError .channel)) record
      (Port.collectLine patience record).2 := by
  have entered (record : Recorded σ) : (Port.read record).2.operations =
      record.operations ++ [.read (Port.read record).1] := rfl
  have failure (record : Recorded σ) := read_failure (Port.read record).1
  induction patience generalizing record with
  | zero =>
    have verdictFailure := failure record
    rw [Port.collectLine_zero]
    cases judged : Port.verdict (Port.read record).1 with
    | ends bytes => exact .one (entered record) rfl (by rw [verdictFailure, judged])
    | continues bytes => exact .one (entered record) rfl (by rw [verdictFailure, judged])
    | fails error => exact .failing (entered record) rfl (by rw [verdictFailure, judged]) rfl
  | succ patience ih =>
    have verdictFailure := failure record
    rw [Port.collectLine_succ]
    cases judged : Port.verdict (Port.read record).1 with
    | ends bytes => exact .one (entered record) rfl (by rw [verdictFailure, judged])
    | fails error => exact .failing (entered record) rfl (by rw [verdictFailure, judged]) rfl
    | continues bytes =>
      have step := Sends.one (entered record) rfl (by rw [verdictFailure, judged])
      have rest := step.trans (ih (Port.read record).2)
      rcases collected : Port.collectLine patience (Port.read record).2 with
        ⟨error | line, last⟩ <;>
        rw [collected] at rest <;> exact rest

/-- Reading a line hands over nothing. -/
theorem readLine_sends (record : Recorded σ) :
    Sends [] (failureOf ((Port.readLine record).1.mapError .channel)) record
      (Port.readLine record).2 := by
  have collected := collectLine_sends (Port.patience record) record
  rw [Port.readLine_eq]
  rcases outcome : Port.collectLine (Port.patience record) record with ⟨error | bytes, next⟩ <;>
    rw [outcome] at collected <;> exact collected

end Recorded

namespace Procedure

variable {σ α β : Type}

/-- A procedure hands over some bytes, or a part from their front if it fails. -/
def Sends (wire : List UInt8) (procedure : Procedure (Recorded σ) α) : Prop :=
  ∀ session, Recorded.Sends wire (failureOf (procedure.run session).1) session.port
    (procedure.run session).2.port

namespace Sends

theorem pure (value : α) : Sends [] (Pure.pure value : Procedure (Recorded σ) α) :=
  fun _ => .refl rfl

/-- Steps send one after the other. -/
theorem bind {first second : List UInt8} {procedure : Procedure (Recorded σ) α}
    {next : α → Procedure (Recorded σ) β} (head : Sends first procedure)
    (tail : ∀ value, Sends second (next value)) : Sends (first ++ second) (procedure >>= next) := by
  intro session
  have sends := head session
  rw [run_bind]
  rcases outcome : procedure.run session with ⟨error | value, after⟩
  · rw [outcome] at sends
    exact sends.cut
  · rw [outcome] at sends
    exact sends.trans (tail value after)

/-- A step that sends nothing may come first. -/
theorem after {wire : List UInt8} {procedure : Procedure (Recorded σ) α}
    {next : α → Procedure (Recorded σ) β} (head : Sends [] procedure)
    (tail : ∀ value, Sends wire (next value)) : Sends wire (procedure >>= next) :=
  head.bind tail

/-- A step that sends nothing may come last. -/
theorem before {wire : List UInt8} {procedure : Procedure (Recorded σ) α}
    {next : α → Procedure (Recorded σ) β} (head : Sends wire procedure)
    (tail : ∀ value, Sends [] (next value)) : Sends wire (procedure >>= next) := by
  have sends := head.bind tail
  rwa [List.append_nil] at sends

theorem tell (events : List Event) :
    Sends [] (Procedure.tell events : Procedure (Recorded σ) Unit) :=
  fun _ => .refl rfl

theorem advance (sent total : Nat) :
    Sends [] (Procedure.advance sent total : Procedure (Recorded σ) Unit) :=
  fun _ => .refl rfl

variable [Port σ]

theorem pause (span : Milliseconds) :
    Sends [] (Procedure.pause span : Procedure (Recorded σ) Unit) :=
  fun _ => .refl rfl

/-- A command goes out as its encoding. -/
theorem send (command : Command) :
    Sends command.encode (Procedure.send command : Procedure (Recorded σ) Unit) :=
  fun session => Recorded.deliver_sends command.encode session.port

theorem readLine : Sends [] (Procedure.readLine : Procedure (Recorded σ) String) := by
  intro session
  have sends := Recorded.readLine_sends session.port
  rw [run_readLine]
  rcases outcome : Port.readLine session.port with ⟨error | line, port⟩ <;>
    rw [outcome] at sends <;> exact sends

theorem poll (find : String → Option α) (attempts : Nat) :
    Sends [] (Procedure.poll find attempts : Procedure (Recorded σ) (Option α)) := by
  induction attempts with
  | zero => exact .pure none
  | succ attempts ih =>
    rw [poll_succ]
    refine .after .readLine fun line => ?_
    cases answerIn find line with
    | none => exact ih
    | some found => exact .pure _

theorem clearInput : Sends [] (Procedure.clearInput : Procedure (Recorded σ) Unit) := by
  intro session
  have entered : (Port.clear session.port).2.operations =
      session.port.operations ++ [.clear (Port.clear session.port).1] := rfl
  rw [run_clearInput]
  rcases cleared : (Port.clear session.port).1 with error | ⟨⟩
  · exact .failing entered rfl (by rw [cleared]; rfl) rfl
  · exact .one entered rfl (by rw [cleared]; rfl)

/-- An inquiry sends its command. -/
theorem inquire (command : Command) (wait : Milliseconds) (find : String → Option α)
    (attempts : Nat) (conclude : Option α → β) (event : β → Event) :
    Sends command.encode
      (Procedure.inquire command wait find attempts conclude event : Procedure (Recorded σ) β) :=
  .before (.send _) fun _ => .after (.pause _) fun _ =>
    .after (.poll _ _) fun _ => .after (.tell _) fun _ => .pure _

end Sends

end Procedure

namespace Upload

open Procedure

variable {σ : Type} [Port σ]

/-- The bytes of certificate lines on the wire. -/
def lineBytes (lines : List String) : List UInt8 :=
  lines.flatMap fun line => (Command.line line).encode

theorem settle_sends (plan : UploadPlan) :
    Sends [] (settle plan : Procedure (Recorded σ) Unit) := by
  intro session
  rw [run_settle]
  exact Sends.clearInput _

/-- Up to the answer to the begin marker nothing else is sent. -/
theorem opening_sends (plan : UploadPlan) (certificate : Certificate) :
    Sends Command.begin.encode
      (opening plan certificate : Procedure (Recorded σ) BeginOutcome) := by
  unfold opening
  rw [begin_eq]
  exact .after (.tell _) fun _ => .after (settle_sends plan) fun _ => .inquire _ _ _ _ _ _

/-- Streaming sends the lines one after the other. -/
theorem streamFrom_sends (delay : Milliseconds) (total sent : Nat) (lines : List String) :
    Sends (lineBytes lines) (streamFrom delay total sent lines : Procedure (Recorded σ) Nat) := by
  induction lines generalizing sent with
  | nil => exact .pure sent
  | cons line lines ih =>
    exact .bind (.send _) fun _ => .after (.pause _) fun _ =>
      .after .readLine fun _ => .after (.advance _ _) fun _ => ih (sent + 1)

theorem stream_sends (plan : UploadPlan) (certificate : Certificate) :
    Sends (lineBytes certificate.lines)
      (stream plan certificate : Procedure (Recorded σ) Nat) :=
  .after (.tell _) fun _ => streamFrom_sends _ _ _ _

/-- The transfer sends the lines, the end marker and the status query. -/
theorem transfer_sends (plan : UploadPlan) (certificate : Certificate) :
    Sends (lineBytes certificate.lines ++ (Command.finish.encode ++ Command.status.encode))
      (transfer plan certificate : Procedure (Recorded σ) UploadReport) := by
  unfold transfer
  rw [finish_eq, verify_eq]
  exact .bind (stream_sends plan certificate) fun _ =>
    .bind (.inquire _ _ _ _ _ _) fun _ =>
      .before (.inquire _ _ _ _ _ _) fun _ => .after (.tell _) fun _ => .pure _

end Upload

end CertConsole
