import CertConsole.Upload.Phases

/-!
# Equations of procedures

What the steps of an upload do to a session, one equation per step, so that a theorem about an
upload opens its phases by name and none of their monads. `phases_eq` cuts the phases at the one
place where an upload can end early: behind the answer to the begin marker.
-/
namespace CertConsole.Procedure

variable {σ α β : Type}

@[simp] theorem run_pure (value : α) (session : Session σ) :
    (pure value : Procedure σ α).run session = (.ok value, session) := rfl

/-- The second of two steps is carried out where the first one left off, if the first one did not
fail. -/
theorem run_bind (first : Procedure σ α) (next : α → Procedure σ β) (session : Session σ) :
    (first >>= next).run session =
      match first.run session with
      | (.ok value, after) => (next value).run after
      | (.error error, after) => (.error error, after) := by
  change (ExceptT.bindCont next (first session).1) (first session).2 = _
  change _ = match first session with
    | (.ok value, after) => (next value).run after
    | (.error error, after) => (.error error, after)
  rcases first session with ⟨_ | _, _⟩ <;> rfl

/-- Two steps have a value exactly where the first has one and the second has one after it. -/
theorem run_bind_ok {first : Procedure σ α} {next : α → Procedure σ β}
    {session last : Session σ} {value : β} :
    (first >>= next).run session = (.ok value, last) ↔
      ∃ found after, first.run session = (.ok found, after) ∧
        (next found).run after = (.ok value, last) := by
  rw [run_bind]
  constructor
  · intro done
    rcases outcome : first.run session with ⟨_ | found, after⟩
    · simp [outcome] at done
    · simp only [outcome] at done
      exact ⟨found, after, rfl, done⟩
  · rintro ⟨found, after, outcome, done⟩
    simp only [outcome, done]

/-- A function of the value is applied where there is one. -/
theorem run_map (change : α → β) (procedure : Procedure σ α) (session : Session σ) :
    (change <$> procedure).run session =
      ((procedure.run session).1.map change, (procedure.run session).2) := by
  rw [map_eq_pure_bind, run_bind]
  rcases procedure.run session with ⟨_ | value, after⟩ <;> rfl

@[simp] theorem run_tell (events : List Event) (session : Session σ) :
    (tell events).run session = (.ok (), { session with log := session.log ++ events }) := rfl

@[simp] theorem run_advance (sent total : Nat) (session : Session σ) :
    (advance sent total).run session =
      (.ok (), { session with progress := session.progress ++ [(sent, total)] }) := rfl

variable [Port σ]

@[simp] theorem run_pause (span : Milliseconds) (session : Session σ) :
    (pause span).run session = (.ok (), { session with port := Port.pause span session.port }) :=
  rfl

/-- A command is told before it is delivered. -/
theorem run_send (command : Command) (session : Session σ) :
    (send command).run session =
      ((Port.deliver command.encode session.port).1.mapError .channel,
        { session with
          port := (Port.deliver command.encode session.port).2
          log := session.log ++ [.sending command.text] }) := rfl

/-- What the log is told of a line. -/
def lineEvents (line : String) : List Event := if line = "" then [] else [.received line]

/-- A line that was read is told unless it is empty; a failed read tells nothing. -/
theorem run_readLine (session : Session σ) :
    readLine.run session =
      match Port.readLine session.port with
      | (.ok line, port) =>
        (.ok line, { session with port, log := session.log ++ lineEvents line })
      | (.error error, port) => (.error (.channel error), { session with port }) := by
  have opened : (onChannel Port.readLine).run session =
      ((Port.readLine session.port).1.mapError .channel,
        { session with port := (Port.readLine session.port).2 }) := rfl
  unfold readLine
  rw [run_bind, opened]
  rcases Port.readLine session.port with ⟨error | line, port⟩
  · rfl
  · change (do
      if line ≠ "" then tell [.received line]
      return line : Procedure σ String).run { session with port } =
        (.ok line, { session with port, log := session.log ++ lineEvents line })
    unfold lineEvents
    by_cases empty : line = ""
    · rw [if_neg (fun given => given empty), if_pos empty, List.append_nil]
      rfl
    · rw [if_pos empty, if_neg empty]
      rfl

/-- A port that has a line gives it. -/
theorem run_readLine_ok {session : Session σ} {line : String}
    (read : (Port.readLine session.port).1 = .ok line) :
    readLine.run session =
      (.ok line,
        { session with
          port := (Port.readLine session.port).2, log := session.log ++ lineEvents line }) := by
  obtain ⟨port, outcome⟩ : ∃ port, Port.readLine session.port = (.ok line, port) :=
    ⟨_, Prod.ext read rfl⟩
  rw [run_readLine]
  simp only [outcome]

/-- A port that fails gives its error, and nothing is told. -/
theorem run_readLine_error {session : Session σ} {error : ChannelError}
    (read : (Port.readLine session.port).1 = .error error) :
    readLine.run session =
      (.error (.channel error), { session with port := (Port.readLine session.port).2 }) := by
  obtain ⟨port, outcome⟩ : ∃ port, Port.readLine session.port = (.error error, port) :=
    ⟨_, Prod.ext read rfl⟩
  rw [run_readLine]
  simp only [outcome]

/-- A line read leaves the port as the port leaves it. -/
theorem readLine_port (session : Session σ) :
    (readLine.run session).2.port = (Port.readLine session.port).2 := by
  rw [run_readLine]
  rcases Port.readLine session.port with ⟨error | line, port⟩ <;> rfl

/-- Input is told to be discarded before it is. -/
theorem run_clearInput (session : Session σ) :
    clearInput.run session =
      ((Port.clear session.port).1,
        { session with
          port := (Port.clear session.port).2
          log := session.log ++ Port.clearEvents session.port }) := rfl

/-- A port is told to be closed before it is. -/
theorem run_close (session : Session σ) :
    close.run session =
      ((Port.close session.port).1,
        { session with
          port := (Port.close session.port).2
          log := session.log ++ Port.closeEvents session.port }) := rfl

/-- What a poll makes of a line: an empty line is never an answer. -/
def answerIn (find : String → Option α) (line : String) : Option α :=
  if line = "" then none else find line

/-- A poll with attempts left reads a line and ends with its answer, or goes on without one. -/
theorem poll_succ (find : String → Option α) (attempts : Nat) :
    (poll find (attempts + 1) : Procedure σ (Option α)) =
      readLine >>= fun line =>
        match answerIn find line with
        | some found => pure (some found)
        | none => poll find attempts := rfl

/-- Send a command, let time pass, poll for an answer, and tell and return what it comes to. -/
def inquire (command : Command) (wait : Milliseconds) (find : String → Option α) (attempts : Nat)
    (conclude : Option α → β) (event : β → Event) : Procedure σ β := do
  send command
  pause wait
  let value := conclude (← poll find attempts)
  tell [event value]
  return value

end CertConsole.Procedure

namespace CertConsole.Upload

open Procedure

variable {σ : Type} [Port σ]

/-- Settling is a pause and an attempt to discard input, told by the name of the port. -/
theorem run_settle (plan : UploadPlan) (session : Session σ) :
    (settle plan).run session = clearInput.run { session with
      port := Port.pause plan.settleDelay session.port
      log := session.log ++ [.settling (Port.name session.port)] } := rfl

/-- The begin phase inquires with the begin marker. -/
theorem begin_eq (plan : UploadPlan) :
    (begin plan : Procedure σ BeginOutcome) =
      inquire .begin plan.beginWait beginAnswer? plan.beginAttempts (·.getD .noResponse)
        beginEvent := rfl

/-- The finish phase inquires with the end marker. -/
theorem finish_eq (plan : UploadPlan) :
    (finish plan : Procedure σ Bool) =
      inquire .finish plan.endWait saveConfirmed? plan.endAttempts Option.isSome
        (if · then .certificateSaved else .saveUnconfirmed) := rfl

/-- The verify phase inquires with the status query. -/
theorem verify_eq (plan : UploadPlan) :
    (verify plan : Procedure σ CaStatus) =
      inquire .status plan.statusWait Reply.caField? plan.statusAttempts CaStatus.ofField
        caEvent := rfl

/-- Tell that the device does not load a certificate of this size. -/
def warnOfSize (certificate : Certificate) : Procedure σ Unit :=
  tell (if Certificate.capacity ≤ certificate.storedSize
    then [.overCapacity certificate.storedSize] else [])

/-- The phases up to the answer to the begin marker. -/
def opening (plan : UploadPlan) (certificate : Certificate) : Procedure σ BeginOutcome := do
  warnOfSize certificate
  settle plan
  begin plan

/-- The phases that follow an accepted begin marker. -/
def transfer (plan : UploadPlan) (certificate : Certificate) : Procedure σ UploadReport := do
  let linesSent ← stream plan certificate
  let saved ← finish plan
  let caStatus ← verify plan
  let report : UploadReport := ⟨.ready, linesSent, saved, caStatus⟩
  tell [if report.success then .uploadConfirmed else .uploadUnconfirmed]
  return report

/-- What follows the begin phase. -/
def afterBegin (plan : UploadPlan) (certificate : Certificate) :
    BeginOutcome → Procedure σ UploadReport
  | .ready => transfer plan certificate
  | outcome => return .aborted outcome

/-- The phases of an upload are those up to the answer to the begin marker and, if the device
accepts it, the transfer. -/
theorem phases_eq (plan : UploadPlan) (certificate : Certificate) :
    (phases plan certificate : Procedure σ UploadReport) =
      opening plan certificate >>= afterBegin plan certificate := by
  have later : (fun outcome : BeginOutcome =>
      (match outcome with
        | .ready => transfer plan certificate
        | outcome => return .aborted outcome : Procedure σ UploadReport)) =
      afterBegin plan certificate := by
    funext outcome
    cases outcome <;> rfl
  rw [← later]
  unfold opening phases warnOfSize
  simp only [bind_assoc]
  by_cases large : Certificate.capacity ≤ certificate.storedSize
  · simp only [large, ↓reduceIte]
    rfl
  · simp only [large, ↓reduceIte]
    funext session
    change _ = (settle plan >>= _ : Procedure σ UploadReport)
      { session with log := session.log ++ [] }
    rw [List.append_nil]
    rfl

/-- An upload that the device does not let begin ends where its opening does. -/
theorem phases_unopened {plan : UploadPlan} {certificate : Certificate} {session : Session σ}
    (closed : ((opening plan certificate).run session).1 ≠ .ok .ready) :
    ((phases plan certificate).run session).2 = ((opening plan certificate).run session).2 := by
  rw [phases_eq, run_bind]
  rcases outcome : (opening plan certificate).run session with ⟨error | answer, after⟩
  · rfl
  · rw [outcome] at closed
    cases answer with
    | ready => exact absurd rfl closed
    | refused line => rfl
    | noResponse => rfl

/-- The phases behind settling. -/
def afterSettling (plan : UploadPlan) (certificate : Certificate) : Procedure σ UploadReport :=
  begin plan >>= afterBegin plan certificate

/-- The phases are a warning about the size, settling, and what follows it. -/
theorem phases_settling (plan : UploadPlan) (certificate : Certificate) :
    (phases plan certificate : Procedure σ UploadReport) =
      warnOfSize certificate >>= fun _ => settle plan >>= fun _ =>
        afterSettling plan certificate := by
  rw [phases_eq, opening]
  simp only [bind_assoc]
  rfl

/-- A whole upload is its phases and then one attempt to close the port; an error of the phases is
the one that is told. -/
theorem run_run (plan : UploadPlan) (certificate : Certificate) (session : Session σ) :
    (run plan certificate).run session =
      let (report, after) := (phases plan certificate).run session
      let closed := (Port.close after.port).1
      (match report with
        | .error error => .error error
        | .ok report => closed.map fun _ => report,
        { after with
          port := (Port.close after.port).2
          log := after.log ++ Port.closeEvents after.port }) := by
  change run plan certificate session = _
  unfold run
  simp only [run_close]
  rcases (phases plan certificate).run session with ⟨_ | report, after⟩
  · rfl
  · rcases (Port.close after.port).1 <;> rfl

end CertConsole.Upload
