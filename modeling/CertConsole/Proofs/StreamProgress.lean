import CertConsole.Proofs.BrokenOff
import CertConsole.Proofs.Closing
import CertConsole.Proofs.Telling

/-!
# Progress and delivery

A call that streams lines counts each line once its reply line was read, and the count is its value.
The device has received each line that is counted, and the line behind the last one that is counted
only where the call ended in an operation that waits. The law is stated line by line (`Streamed`),
and the numbers of lines that are counted and delivered are derived from it by induction
(`progress_delivered`).
-/
namespace CertConsole

namespace Upload

open Procedure

/-- What operations amount to that stream lines, one line after the other: how they end, how many
lines are counted and how many are delivered. -/
inductive Streamed : List String → List Operation → Option PortError → Nat → Nat → Prop
  /-- No line is left. -/
  | done : Streamed [] [] none 0 0
  /-- A line is delivered and counted. -/
  | passed {line : String} {lines : List String} {early late : List Operation}
    {failure : Option PortError} {counted delivered : Nat}
    (sent : Orderly (Command.line line).encode early none)
    (later : Streamed lines late failure counted delivered) :
    Streamed (line :: lines) (early ++ late) failure (counted + 1) (delivered + 1)
  /-- A line is not counted. It is delivered where the call ends in an operation that waits. -/
  | broken {line : String} {lines : List String} {operations : List Operation} {last : Operation}
    {error : PortError} (broke : Broken (Command.line line).encode operations last error) :
    Streamed (line :: lines) operations (some error) 0 last.awaits.toNat

namespace Streamed

variable {lines : List String} {operations : List Operation} {failure : Option PortError}
  {counted delivered : Nat}

/-- Without a failure all lines are counted and delivered. -/
theorem finished (streamed : Streamed lines operations failure counted delivered)
    (fine : failure = none) : counted = lines.length ∧ delivered = lines.length := by
  induction streamed with
  | done => exact ⟨rfl, rfl⟩
  | passed sent later ih =>
    obtain ⟨all, every⟩ := ih fine
    exact ⟨congrArg (· + 1) all, congrArg (· + 1) every⟩
  | broken broke => cases fine

/-- With a failure some line is not counted. It is delivered just where all of its bytes are handed
over, and just where the operation that fails waits. -/
theorem stopped (streamed : Streamed lines operations failure counted delivered)
    {error : PortError} (failed : failure = some error) :
    counted < lines.length ∧ ∃ last, [last] <:+ operations ∧ last.failure? = some error ∧
      delivered = counted + last.awaits.toNat ∧
      (acceptedBytes operations = lineBytes (lines.take (counted + 1)) ↔ last.awaits = true) := by
  induction streamed with
  | done => cases failed
  | @passed line lines early late failure counted delivered sent later ih =>
    obtain ⟨short, last, ends, fails, number, whole⟩ := ih failed
    refine ⟨Nat.succ_lt_succ short, last, List.suffix_append_of_suffix ends, fails, ?_, ?_⟩
    · omega
    · rw [acceptedBytes_append, sent.acceptsAll rfl, List.take_succ_cons, lineBytes,
        List.flatMap_cons, List.append_right_inj]
      exact whole
  | @broken line lines operations last error' broke =>
    cases failed
    have alone : lineBytes ((line :: lines).take 1) = (Command.line line).encode :=
      List.append_nil _
    refine ⟨Nat.zero_lt_succ _, last, broke.ends, broke.failed, (Nat.zero_add _).symm, ?_⟩
    rw [Nat.zero_add, alone]
    exact broke.whole

/-- To a responder with nothing pending the bytes are the lines that are delivered. -/
theorem received (streamed : Streamed lines operations failure counted delivered)
    (plain : ∀ line ∈ lines, Command.terminator ∉ (Command.line line).bytes)
    (responder : Responder) (idle : responder.pending = []) :
    (responder.receive (acceptedBytes operations)).2.commands =
      responder.commands ++ (lines.take delivered).map fun line => (Command.line line).bytes := by
  induction streamed generalizing responder with
  | done => exact (List.append_nil _).symm
  | @passed line lines early late failure counted delivered sent later ih =>
    have own := plain line List.mem_cons_self
    have others := fun other inside => plain other (List.mem_cons_of_mem line inside)
    have command := Responder.receive_command own responder idle
    rw [acceptedBytes_append, sent.acceptsAll rfl, Responder.receive_append]
    change (((responder.receive ((Command.line line).bytes ++ [Command.terminator])).2).receive
      (acceptedBytes late)).2.commands = _
    rw [command, ih others _ rfl, List.take_succ_cons, List.map_cons, List.append_assoc]
    rfl
  | @broken line lines operations last error broke =>
    have own := plain line List.mem_cons_self
    cases waits : last.awaits with
    | true =>
      have whole := broke.whole.mpr waits
      rw [whole]
      change (responder.receive ((Command.line line).bytes ++ [Command.terminator])).2.commands = _
      rw [Responder.receive_command own responder idle]
      rfl
    | false =>
      -- What was taken is a part of the line, so its terminator is missing.
      have part : acceptedBytes operations <+: (Command.line line).bytes ++ [Command.terminator] :=
        broke.orderly.accepts
      have short : acceptedBytes operations <+: (Command.line line).bytes := by
        rcases List.prefix_concat_iff.mp part with whole | short
        · have ends := broke.whole.mp whole
          rw [waits] at ends
          cases ends
        · exact short
      rw [Responder.receive_plain fun inside => own (short.subset inside)]
      exact (List.append_nil _).symm

end Streamed

section Course

variable {σ : Type} [Port σ]

/-- Send one line and read one reply line. -/
def offer (delay : Milliseconds) (line : String) : Procedure σ String := do
  send (.line line)
  pause delay
  readLine

/-- The first line is offered and counted, and then the others are streamed. -/
theorem streamFrom_cons (delay : Milliseconds) (total sent : Nat) (line : String)
    (lines : List String) :
    (streamFrom delay total sent (line :: lines) : Procedure σ Nat) =
      offer delay line >>= fun _ => advance (sent + 1) total >>= fun _ =>
        streamFrom delay total (sent + 1) lines := by
  unfold offer
  simp only [bind_assoc]
  rfl

theorem offer_appends {entries : Nat × Nat → Prop} (delay : Milliseconds) (line : String) :
    Appends entries (offer delay line : Procedure σ String) :=
  .bind (.send _) fun _ => .bind (.pause _) fun _ => .readLine

/-- Offering a line hands it over. -/
theorem offer_sends (delay : Milliseconds) (line : String) :
    Sends (Command.line line).encode (offer delay line : Procedure (Recorded σ) String) :=
  .before (.send _) fun _ => .after (.pause _) fun _ => .readLine

/-- An offer fails in a write, before all of the line is taken, or behind it. -/
theorem offer_breaks (delay : Milliseconds) (line : String) :
    Breaks (Command.line line).encode (offer delay line : Procedure (Recorded σ) String) := by
  have waited : Breaks [] (pause delay >>= fun _ => readLine : Procedure (Recorded σ) String) :=
    .bind nofun (.pause delay) fun _ => readLine_breaks
  exact .bind (send_breaks _) (.send _) fun _ => waited

/-- Streaming lines counts those that are passed, from a number on, and its value is the count. -/
theorem streamFrom_streamed (delay : Milliseconds) (total sent : Nat) (lines : List String)
    (session : Session (Recorded σ)) :
    let outcome := (streamFrom delay total sent lines).run session
    ∃ operations counted delivered,
      outcome.2.port.operations = session.port.operations ++ operations ∧
      outcome.2.progress = session.progress ++
        (List.range counted).map (fun index => (sent + index + 1, total)) ∧
      (∀ count, outcome.1 = .ok count → count = sent + counted) ∧
      Streamed lines operations (failureOf outcome.1) counted delivered := by
  induction lines generalizing sent session with
  | nil =>
    refine ⟨[], 0, 0, (List.append_nil _).symm, (List.append_nil _).symm, ?_, .done⟩
    intro count done
    cases done
    rfl
  | cons line lines ih =>
    have kept := (offer_appends delay line).progress_kept session
    rw [streamFrom_cons, run_bind]
    rcases outcome : (offer delay line).run session with ⟨error | reply, after⟩
    · have breaks := offer_breaks delay line session error (congrArg Prod.fst outcome)
      rw [outcome] at breaks kept
      obtain ⟨operations, last, entered, broke⟩ := breaks
      refine ⟨operations, 0, last.awaits.toNat, entered, ?_, nofun, .broken broke⟩
      exact kept.trans (List.append_nil _).symm
    · have sends := offer_sends delay line session
      rw [outcome] at sends kept
      obtain ⟨early, entered, orderly⟩ := sends
      obtain ⟨late, counted, delivered, entered', progress, value, streamed⟩ := ih (sent + 1)
        { after with progress := after.progress ++ [(sent + 1, total)] }
      simp only [run_bind, run_advance]
      refine ⟨early ++ late, counted + 1, delivered + 1, ?_, ?_, ?_, .passed orderly streamed⟩
      · rw [entered', entered, List.append_assoc]
      · have shifted : (fun index => (sent + 1 + index + 1, total)) =
            (fun index => (sent + index + 1, total)) ∘ Nat.succ := by
          funext index
          exact congrArg (·, total) (by omega)
        rw [progress, kept, shifted, List.range_succ_eq_map, List.map_cons, List.map_map,
          List.append_assoc]
        rfl
      · intro count done
        rw [value count done, Nat.add_assoc, Nat.add_comm 1 counted]

/-- Streaming a certificate tells the number of its lines and streams them all. -/
theorem run_stream (plan : UploadPlan) (certificate : Certificate) (session : Session σ) :
    (stream plan certificate).run session =
      (streamFrom plan.lineDelay certificate.lineCount 0 certificate.lines).run
        { session with log := session.log ++ [.sendingLines certificate.lineCount] } := by
  unfold stream
  rw [run_bind, run_tell]

/-- A call that streams a certificate counts lines from one on, has their count for its value, and
enters operations that stream them. -/
theorem stream_entered (plan : UploadPlan) (certificate : Certificate)
    (session : Session (Recorded σ)) :
    let outcome := (stream plan certificate).run session
    ∃ operations counted delivered,
      outcome.2.port.operations = session.port.operations ++ operations ∧
      outcome.2.progress = session.progress ++
        (List.range counted).map (fun index => (index + 1, certificate.lineCount)) ∧
      (∀ count, outcome.1 = .ok count → count = counted) ∧
      Streamed certificate.lines operations (failureOf outcome.1) counted delivered := by
  have streams := streamFrom_streamed plan.lineDelay certificate.lineCount 0 certificate.lines
    { session with log := session.log ++ [.sendingLines certificate.lineCount] }
  simp only [Nat.zero_add] at streams
  rw [run_stream]
  exact streams

/-- The operations that streaming a certificate makes on its port. -/
def streamOperations (plan : UploadPlan) (certificate : Certificate) (session : Session σ) :
    List Operation :=
  ((stream plan certificate).run session.recording).2.port.operations

/-- The operations of a call stream the lines, and the call counts them. -/
theorem stream_streamed (plan : UploadPlan) (certificate : Certificate) (session : Session σ) :
    let outcome := (stream plan certificate).run session
    ∃ counted delivered,
      outcome.2.progress = session.progress ++
        (List.range counted).map (fun index => (index + 1, certificate.lineCount)) ∧
      (∀ count, outcome.1 = .ok count → count = counted) ∧
      Streamed certificate.lines (streamOperations plan certificate session)
        (failureOf outcome.1) counted delivered := by
  obtain ⟨same, mirrored⟩ := stream_simulates Recorded.mirrors_simulation plan certificate
    session.recording session (recording_alike session)
  obtain ⟨operations, counted, delivered, entered, progress, value, streamed⟩ :=
    stream_entered plan certificate session.recording
  have all : streamOperations plan certificate session = operations := entered
  rw [mirrored.progress] at progress
  rw [same] at streamed value
  rw [all]
  exact ⟨counted, delivered, progress, value, streamed⟩

end Course

/-- The far end of a device has received the bytes that it took from a call that streams. -/
theorem stream_heard (plan : UploadPlan) (certificate : Certificate) (session : Session Device) :
    ((stream plan certificate).run session).2.port.responder =
      (session.port.responder.receive
        (acceptedBytes (streamOperations plan certificate session))).2 := by
  have stable := Device.hears_stable session.port.responder
  have kept := stream_simulates stable.lockstep.simulation plan certificate
    session.recording session.recording ⟨⟨rfl, rfl⟩, rfl, rfl⟩
  have mirrored := (stream_simulates Recorded.mirrors_simulation plan certificate
    session.recording session (recording_alike session)).2.port
  rw [← mirrored]
  exact kept.2.port.2

/-- Opening is simulated, as the other phases are. -/
theorem opening_simulates {σ τ : Type} [Port σ] [Port τ] {related : σ → τ → Prop}
    (simulation : Port.Simulation related) (plan : UploadPlan) (certificate : Certificate) :
    Simulates related (opening plan certificate : Procedure σ BeginOutcome)
      (opening plan certificate) := by
  unfold opening
  rw [begin_eq, begin_eq]
  exact .bind (.tell _) fun _ => .bind (settle_simulates simulation plan) fun _ =>
    .inquire simulation _ _ _ _ _ _

/-- Behind an opening without an error a device that had nothing pending has nothing pending. -/
theorem opening_idle {plan : UploadPlan} {certificate : Certificate}
    {session before : Session Device} {outcome : BeginOutcome}
    (opened : (opening plan certificate).run session = (.ok outcome, before))
    (idle : session.port.responder.pending = []) : before.port.responder.pending = [] := by
  obtain ⟨same, mirrored⟩ := opening_simulates Recorded.mirrors_simulation plan certificate
    session.recording session (recording_alike session)
  have stable := Device.hears_stable session.port.responder
  have kept := (opening_simulates stable.lockstep.simulation plan certificate
    session.recording session.recording ⟨⟨rfl, rfl⟩, rfl, rfl⟩).2.port.2
  obtain ⟨operations, entered, orderly⟩ := opening_sends plan certificate session.recording
  have all : ((opening plan certificate).run session.recording).2.port.operations = operations :=
    entered
  have port : ((opening plan certificate).run session.recording).2.port.port = before.port := by
    rw [mirrored.port, opened]
  rw [same, opened] at orderly
  unfold Device.Hears at kept
  rw [all, orderly.acceptsAll rfl, port] at kept
  have plain : Command.terminator ∉ Command.begin.bytes := by decide
  have command := Responder.receive_command plain session.port.responder idle
  rw [kept]
  exact congrArg (·.2.pending) command

section Run

variable {σ : Type} [Port σ]

/-- Before the lines no progress is reported. -/
theorem opening_kept (plan : UploadPlan) (certificate : Certificate) (session : Session σ) :
    ((opening plan certificate).run session).2.progress = session.progress := by
  have appends : Appends (fun _ => False)
      (settle plan >>= fun _ => begin plan : Procedure σ BeginOutcome) :=
    .bind (settle_appends plan) fun _ => begin_appends plan
  unfold opening
  rw [run_bind, warnOfSize, run_tell]
  exact appends.progress_kept _

/-- Behind the lines no progress is reported. -/
theorem transfer_progress (plan : UploadPlan) (certificate : Certificate) (session : Session σ) :
    ((transfer plan certificate).run session).2.progress =
      ((stream plan certificate).run session).2.progress := by
  rw [transfer_eq, run_bind]
  rcases (stream plan certificate).run session with ⟨error | linesSent, after⟩
  · rfl
  · exact (conclusion_appends plan linesSent).progress_kept after

/-- An upload reports the progress of the call that streams. -/
theorem run_progress {plan : UploadPlan} {certificate : Certificate} {session before : Session σ}
    (opened : (opening plan certificate).run session = (.ok .ready, before)) :
    ((run plan certificate).run session).2.progress =
      ((stream plan certificate).run before).2.progress := by
  rw [run_last, phases_eq, run_bind]
  simp only [opened]
  exact transfer_progress plan certificate before

/-- An upload that the device does not let begin reports no progress. -/
theorem run_progress_unopened {plan : UploadPlan} {certificate : Certificate}
    {session : Session σ} (closed : ((opening plan certificate).run session).1 ≠ .ok .ready) :
    ((run plan certificate).run session).2.progress = session.progress := by
  have kept := opening_kept plan certificate session
  rw [run_last, phases_eq, run_bind]
  rcases outcome : (opening plan certificate).run session with ⟨error | answer, before⟩
  · rw [outcome] at kept
    exact kept
  · rw [outcome] at kept closed
    cases answer with
    | ready => exact absurd rfl closed
    | refused line => exact kept
    | noResponse => exact kept

end Run

/-- **Progress and delivery agree, also on failure.** A call that streams a text to a device with
nothing pending reports lines one, two and so on up to some number, and the device has received the
commands of these lines, or of one more. The call has the number of all lines for its value just
where all are reported, and then all are received. If it has an error some line is not reported, and
this line is received just where all of its bytes were taken: then the operation that fails is the
flush behind it or the read of its reply. A call in the course of an upload that the device lets
begin is such a call and reports all progress of the upload; another upload reports none. -/
theorem progress_delivered (plan : UploadPlan) (text : String) :
    let certificate := Certificate.ofText text
    let total := certificate.lineCount
    (∀ session : Session Device, session.port.responder.pending = [] →
      let outcome := (stream plan certificate).run session
      let operations := streamOperations plan certificate session
      ∃ counted delivered,
        outcome.2.progress = session.progress ++
          (List.range counted).map (fun index => (index + 1, total)) ∧
        outcome.2.port.responder.commands = session.port.responder.commands ++
          (certificate.lines.take delivered).map (fun line => (Command.line line).bytes) ∧
        counted ≤ total ∧ (delivered = counted ∨ delivered = counted + 1) ∧
        (∀ count, outcome.1 = .ok count → count = total) ∧
        (outcome.1 = .ok total ↔ counted = total) ∧ (counted = total → delivered = total) ∧
        ∀ error, outcome.1 = .error error → counted < total ∧
          ∃ last, [last] <:+ operations ∧ last.failure? = some error ∧
            (delivered = counted + 1 ↔
              acceptedBytes operations = lineBytes (certificate.lines.take (counted + 1))) ∧
            (delivered = counted + 1 ↔ last.awaits = true)) ∧
    ∀ session : Session Device, session.port.responder.pending = [] →
      let whole := (run plan certificate).run session
      (∀ before, (opening plan certificate).run session = (.ok .ready, before) →
        before.port.responder.pending = [] ∧ before.progress = session.progress ∧
        whole.2.progress = ((stream plan certificate).run before).2.progress) ∧
      (((opening plan certificate).run session).1 ≠ .ok .ready →
        whole.2.progress = session.progress) := by
  intro certificate total
  constructor
  · intro session idle outcome operations
    obtain ⟨counted, delivered, progress, value, streamed⟩ :=
      stream_streamed plan certificate session
    have plain : ∀ line ∈ certificate.lines, Command.terminator ∉ (Command.line line).bytes :=
      fun line inside => line_plain inside
    have received : outcome.2.port.responder.commands = session.port.responder.commands ++
        (certificate.lines.take delivered).map (fun line => (Command.line line).bytes) := by
      rw [stream_heard]
      exact streamed.received plain _ idle
    refine ⟨counted, delivered, progress, received, ?_⟩
    cases ends : outcome.1 with
    | ok count =>
      obtain ⟨every, each⟩ := streamed.finished (congrArg failureOf ends)
      have counts : counted = total := every
      have delivers : delivered = total := each
      have all : count = total := (value count ends).trans counts
      refine ⟨Nat.le_of_eq counts, .inl (delivers.trans counts.symm), ?_, ?_, fun _ => delivers,
        nofun⟩
      · intro other same
        cases same
        exact all
      · exact iff_of_true (congrArg _ all) counts
    | error error =>
      obtain ⟨short, last, final, failed, number, taken⟩ :=
        streamed.stopped (congrArg failureOf ends)
      have missing : counted < total := short
      have behind : delivered = counted + 1 ↔ last.awaits = true := by
        rw [number]
        cases last.awaits <;> simp
      refine ⟨Nat.le_of_lt missing, ?_, nofun, ?_, ?_, ?_⟩
      · rw [number]
        cases last.awaits
        · exact .inl rfl
        · exact .inr rfl
      · exact iff_of_false nofun (Nat.ne_of_lt missing)
      · exact fun all => absurd all (Nat.ne_of_lt missing)
      · intro other same
        cases same
        exact ⟨missing, last, final, failed, behind.trans taken.symm, behind⟩
  · intro session idle whole
    constructor
    · intro before opened
      have kept := opening_kept plan certificate session
      rw [opened] at kept
      exact ⟨opening_idle opened idle, kept, run_progress opened⟩
    · exact run_progress_unopened

/-- The flush behind the second of two lines fails: one line is reported and both are received. -/
theorem progress_delivered_flush :
    let error : ChannelError := ⟨.fatal, "flush failed"⟩
    let session : Session Device := { port := { flushes := [none, some error] } }
    let certificate := Certificate.ofText "a\nb"
    let after := ((stream {} certificate).run session).2
    after.progress = [(1, 2)] ∧ after.port.responder.commands.length = 2 ∧
      ∃ last, [last] <:+ streamOperations {} certificate session ∧
        last.failure? = some (.channel error) ∧ last.awaits = true := by
  intro error session certificate after
  have entered : after.progress = [(1, 2)] := by decide +kernel
  have heard : after.port.responder.commands.length = 2 := by decide +kernel
  have failed : ((stream {} certificate).run session).1 = .error (.channel error) := by
    decide +kernel
  obtain ⟨accounts, -⟩ := progress_delivered {} "a\nb"
  obtain ⟨counted, delivered, progress, commands, -, either, -, -, -, stopped⟩ :=
    accounts session rfl
  obtain ⟨-, last, final, fails, -, waits⟩ := stopped _ failed
  have one : counted = 1 := by
    have lengths := congrArg List.length (entered.symm.trans progress)
    rw [List.length_append, List.length_map, List.length_range] at lengths
    exact (Nat.zero_add counted).symm.trans lengths.symm
  have two : 2 ≤ delivered := by
    have lengths := heard.symm.trans (congrArg List.length commands)
    rw [List.length_append, List.length_map, List.length_take] at lengths
    have none : session.port.responder.commands.length = 0 := rfl
    omega
  have both : delivered = counted + 1 := by omega
  exact ⟨entered, heard, last, final, fails, waits.mp both⟩

end Upload

end CertConsole
