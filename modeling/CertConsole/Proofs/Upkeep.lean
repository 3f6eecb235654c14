import CertConsole.Proofs.WireTrace

/-!
# What an upload keeps up

A property of a whole session, of its log and its port together, is kept up by an upload if every
step keeps it up: telling, sending, reading, discarding, and waiting. It may depend on the verdicts
that were told so far. `Kept.phases` carries it through all phases and says which verdicts an upload
with a report has told (`verdicts`), and `Upholds` is the law by which steps compose: a step that
fails ends the upload, so what holds then is stated apart.
-/
namespace CertConsole

/-- The event tells what came of a part of the upload. -/
def Event.isVerdict : Event → Bool
  | .uploadStarted | .uploadRefused _ | .uploadUnanswered | .certificateSaved | .saveUnconfirmed
  | .caPresent | .caAbsent | .caUnreported | .uploadConfirmed | .uploadUnconfirmed => true
  | _ => false

/-- The event tells of an upload that goes on, and no more than that. -/
def Event.IsNotice : Event → Prop
  | .overCapacity _ | .settling _ | .sendingLines _ => True
  | _ => False

namespace Procedure

variable {σ α β : Type}

/-- In a session with one property a procedure has a value with which the other property holds, or
it fails and leaves what is said of failures. -/
def Upholds (before : Session σ → Prop) (procedure : Procedure σ α)
    (behind : α → Session σ → Prop) (broken : PortError → Session σ → Prop) : Prop :=
  ∀ session, before session →
    match procedure.run session with
    | (.ok value, after) => behind value after
    | (.error error, after) => broken error after

namespace Upholds

variable {before : Session σ → Prop} {broken : PortError → Session σ → Prop}

theorem pure {value : α} {behind : α → Session σ → Prop}
    (holds : ∀ session, before session → behind value session) :
    Upholds before (Pure.pure value) behind broken :=
  holds

/-- The second of two steps starts with what the first one leaves. -/
theorem bind {first : Procedure σ α} {next : α → Procedure σ β} {between : α → Session σ → Prop}
    {behind : β → Session σ → Prop} (head : Upholds before first between broken)
    (tail : ∀ value, Upholds (between value) (next value) behind broken) :
    Upholds before (first >>= next) behind broken := by
  intro session held
  have left := head session held
  rw [run_bind]
  rcases outcome : first.run session with ⟨error | value, after⟩ <;> rw [outcome] at left
  · exact left
  · exact tail value after left

/-- What follows from what a step leaves is left, too, also by one that fails. -/
theorem weaken {procedure : Procedure σ α} {behind other : α → Session σ → Prop}
    {lost : PortError → Session σ → Prop} (upholds : Upholds before procedure behind broken)
    (follows : ∀ value session, behind value session → other value session)
    (fails : ∀ error session, broken error session → lost error session) :
    Upholds before procedure other lost := by
  intro session held
  have left := upholds session held
  rcases outcome : procedure.run session with ⟨error | value, after⟩ <;> rw [outcome] at left
  · exact fails error after left
  · exact follows value after left

/-- What follows from what a step leaves is left, too. -/
theorem imply {procedure : Procedure σ α} {behind other : α → Session σ → Prop}
    (upholds : Upholds before procedure behind broken)
    (follows : ∀ value session, behind value session → other value session) :
    Upholds before procedure other broken :=
  upholds.weaken follows fun _ _ left => left

/-- What holds whether or not a procedure fails holds behind it. -/
theorem always {procedure : Procedure σ α} {holds : Session σ → Prop}
    (upholds : Upholds before procedure (fun _ => holds) fun _ => holds) {session : Session σ}
    (held : before session) : holds (procedure.run session).2 := by
  have left := upholds session held
  rcases outcome : procedure.run session with ⟨error | value, after⟩ <;> rw [outcome] at left <;>
    exact left

/-- What is left in any case is left whether or not a procedure fails. -/
theorem of_always {procedure : Procedure σ α} {holds : Session σ → Prop}
    (left : ∀ session, before session → holds (procedure.run session).2) :
    Upholds before procedure (fun _ => holds) fun _ => holds := by
  intro session held
  have after := left session held
  rcases outcome : procedure.run session with ⟨error | value, last⟩ <;> rw [outcome] at after <;>
    exact after

/-- What is said of a value holds of the value that a procedure has. -/
theorem value {procedure : Procedure σ α} {behind : α → Session σ → Prop}
    (upholds : Upholds before procedure behind broken) {session : Session σ}
    (held : before session) {value : α} (done : (procedure.run session).1 = .ok value) :
    behind value (procedure.run session).2 := by
  have left := upholds session held
  rcases outcome : procedure.run session with ⟨error | found, after⟩ <;>
    rw [outcome] at left done <;> cases done
  exact left

/-- A procedure that cannot fail has a value. -/
theorem succeeds {procedure : Procedure σ α} {behind : α → Session σ → Prop}
    (upholds : Upholds before procedure behind fun _ _ => False) {session : Session σ}
    (held : before session) :
    ∃ value, (procedure.run session).1 = .ok value ∧ behind value (procedure.run session).2 := by
  have left := upholds session held
  rcases outcome : procedure.run session with ⟨error | found, after⟩ <;> rw [outcome] at left
  · exact left.elim
  · exact ⟨found, rfl, left⟩

end Upholds

end Procedure

namespace Upload

open Procedure

/-- How the log tells whether the certificate was saved. -/
def savedEvent (saved : Bool) : Event := if saved then .certificateSaved else .saveUnconfirmed

/-- How the log tells whether the upload succeeded. -/
def endEvent (report : UploadReport) : Event :=
  if report.success then .uploadConfirmed else .uploadUnconfirmed

/-- The verdicts that lead to a report: the answer to the begin marker, and where it was accepted
one on the save, one on the CA certificate and one on the whole upload. -/
def verdicts (report : UploadReport) : List Event :=
  beginEvent report.begin ::
    if report.begin = .ready then
      [savedEvent report.saved, caEvent report.caStatus, endEvent report]
    else []

theorem isVerdict_beginEvent (outcome : BeginOutcome) :
    (beginEvent outcome).isVerdict = true := by
  cases outcome <;> rfl

theorem isVerdict_savedEvent (saved : Bool) : (savedEvent saved).isVerdict = true := by
  cases saved <;> rfl

theorem isVerdict_caEvent (status : CaStatus) : (caEvent status).isVerdict = true := by
  cases status <;> rfl

theorem isVerdict_endEvent (report : UploadReport) : (endEvent report).isVerdict = true := by
  unfold endEvent
  cases report.success <;> rfl

variable {σ : Type} [Port σ]

/-- A property that every step of an upload keeps up, once it is known which verdicts were told. -/
structure Kept (certificate : Certificate) (fine : List Event → Session σ → Prop)
    (broken : PortError → Session σ → Prop) : Prop where
  /-- Telling that the upload goes on keeps it up. -/
  notice : ∀ told event, event.IsNotice →
    Upholds (fine told) (tell [event]) (fun _ => fine told) broken
  /-- Telling a verdict keeps it up for the verdicts with this one. -/
  verdict : ∀ told event, event.isVerdict = true →
    Upholds (fine told) (tell [event]) (fun _ => fine (told ++ [event])) broken
  /-- Reporting progress keeps it up. -/
  advance : ∀ told sent total,
    Upholds (fine told) (advance sent total) (fun _ => fine told) broken
  /-- Letting time pass keeps it up. -/
  pause : ∀ told span, Upholds (fine told) (pause span) (fun _ => fine told) broken
  /-- Sending a command of the upload keeps it up. -/
  send : ∀ told, ∀ command ∈ commands certificate,
    Upholds (fine told) (send command) (fun _ => fine told) broken
  /-- Reading a line keeps it up. -/
  readLine : ∀ told, Upholds (fine told) readLine (fun _ => fine told) broken
  /-- Discarding input keeps it up. -/
  clearInput : ∀ told, Upholds (fine told) clearInput (fun _ => fine told) broken

namespace Kept

variable {certificate : Certificate} {fine : List Event → Session σ → Prop}
  {broken : PortError → Session σ → Prop} (kept : Kept certificate fine broken)
include kept

/-- Polling reads lines and nothing else. -/
theorem poll {α : Type} (told : List Event) (find : String → Option α) (attempts : Nat) :
    Upholds (fine told) (Procedure.poll find attempts) (fun _ => fine told) broken := by
  induction attempts with
  | zero => exact .pure fun _ held => held
  | succ attempts ih =>
    rw [poll_succ]
    refine .bind (kept.readLine told) fun line => ?_
    cases answerIn find line with
    | none => exact ih
    | some found => exact .pure fun _ held => held

/-- An inquiry ends with its verdict. -/
theorem inquire {α β : Type} (told : List Event) {command : Command}
    (sent : command ∈ commands certificate) (wait : Milliseconds) (find : String → Option α)
    (attempts : Nat) (conclude : Option α → β) {event : β → Event}
    (judges : ∀ value, (event value).isVerdict = true) :
    Upholds (fine told) (Procedure.inquire command wait find attempts conclude event)
      (fun value => fine (told ++ [event value])) broken :=
  .bind (kept.send told command sent) fun _ =>
    .bind (kept.pause told wait) fun _ =>
      .bind (kept.poll told find attempts) fun _ =>
        .bind (kept.verdict told _ (judges _)) fun _ => .pure fun _ held => held

/-- Settling tells that it begins, lets time pass and discards input. -/
theorem settle (told : List Event) (plan : UploadPlan) :
    Upholds (fine told) (Upload.settle plan) (fun _ => fine told) broken := by
  intro session held
  rw [run_settle]
  have noticed := kept.notice told (.settling (Port.name session.port)) trivial session held
  exact kept.clearInput told _ (kept.pause told plan.settleDelay _ noticed)

/-- Each line of the certificate is sent, waited for, answered by a line and counted. -/
theorem streamFrom (told : List Event) (delay : Milliseconds) (total sent : Nat)
    {lines : List String} (own : ∀ line ∈ lines, line ∈ certificate.lines) :
    Upholds (fine told) (Upload.streamFrom delay total sent lines) (fun _ => fine told)
      broken := by
  induction lines generalizing sent with
  | nil => exact .pure fun _ held => held
  | cons line lines ih =>
    have inside : Command.line line ∈ commands certificate :=
      List.mem_cons_of_mem _
        (List.mem_append_left _ (List.mem_map_of_mem (own line List.mem_cons_self)))
    exact .bind (kept.send told _ inside) fun _ => .bind (kept.pause told delay) fun _ =>
      .bind (kept.readLine told) fun _ => .bind (kept.advance told _ _) fun _ =>
        ih (sent + 1) fun other later => own other (List.mem_cons_of_mem _ later)

/-- Streaming tells how many lines there are and sends them. -/
theorem stream (told : List Event) (plan : UploadPlan) :
    Upholds (fine told) (Upload.stream plan certificate) (fun _ => fine told) broken :=
  .bind (kept.notice told _ trivial) fun _ => kept.streamFrom told _ _ _ fun _ inside => inside

/-- A transfer ends with a verdict on the save, one on the CA certificate and one on the upload. -/
theorem transfer (told : List Event) (plan : UploadPlan) :
    Upholds (fine told) (Upload.transfer plan certificate) (fun report session =>
      (report.begin = .ready ∧ session.log.getLast? = some (endEvent report)) ∧
        fine (told ++ [savedEvent report.saved, caEvent report.caStatus, endEvent report]) session)
      broken := by
  have finished : Command.finish ∈ commands certificate := by simp [commands]
  have asked : Command.status ∈ commands certificate := by simp [commands]
  unfold Upload.transfer
  rw [finish_eq, verify_eq]
  refine .bind (kept.stream told plan) fun linesSent => ?_
  refine .bind (kept.inquire told finished _ _ _ _ isVerdict_savedEvent) fun saved => ?_
  refine .bind (kept.inquire _ asked _ _ _ _ isVerdict_caEvent) fun caStatus => ?_
  intro session held
  have ended := kept.verdict _ _ (isVerdict_endEvent ⟨.ready, linesSent, saved, caStatus⟩) _ held
  rw [run_tell, List.append_assoc, List.append_assoc] at ended
  exact ⟨⟨rfl, List.getLast?_concat⟩, ended⟩

/-- What follows settling tells the verdicts of its report, the one on the upload last. -/
theorem afterSettling (plan : UploadPlan) :
    Upholds (fine []) (Upload.afterSettling plan certificate) (fun report session =>
      (report.begin = .ready → session.log.getLast? = some (endEvent report)) ∧
        fine (verdicts report) session) broken := by
  unfold Upload.afterSettling
  rw [begin_eq]
  refine .bind (kept.inquire [] List.mem_cons_self _ _ _ _ isVerdict_beginEvent) fun outcome => ?_
  cases outcome with
  | ready =>
    refine (kept.transfer [beginEvent .ready] plan).imply fun report session held => ?_
    obtain ⟨⟨accepted, last⟩, told⟩ := held
    refine ⟨fun _ => last, ?_⟩
    rw [verdicts, accepted, if_pos rfl]
    exact told
  | refused line => exact .pure fun _ held => ⟨nofun, held⟩
  | noResponse => exact .pure fun _ held => ⟨nofun, held⟩

/-- **A property that every step keeps up is kept up by all phases.** With a report it holds of the
verdicts that lead to it, and where the upload was accepted the last message is the verdict on
it. -/
theorem phases (plan : UploadPlan) :
    Upholds (fine []) (Upload.phases plan certificate) (fun report session =>
      (report.begin = .ready → session.log.getLast? = some (endEvent report)) ∧
        fine (verdicts report) session) broken := by
  rw [phases_settling]
  refine .bind ?_ fun _ => .bind (kept.settle [] plan) fun _ => kept.afterSettling plan
  by_cases large : Certificate.capacity ≤ certificate.storedSize
  · rw [warnOfSize, if_pos large]
    exact kept.notice [] _ trivial
  · rw [warnOfSize, if_neg large]
    intro session held
    rw [run_tell, List.append_nil]
    exact held

end Kept

/-- Nothing that was told is taken back. -/
theorem log_kept (certificate : Certificate) (log : List Event) :
    Kept certificate (fun _ (session : Session σ) => log <+: session.log)
      fun _ session => log <+: session.log where
  notice _ _ _ _ held := held.trans (List.prefix_append _ _)
  verdict _ _ _ _ held := held.trans (List.prefix_append _ _)
  advance _ _ _ _ held := held
  pause _ _ _ held := held
  send _ command _ session held := by
    have told := held.trans (List.prefix_append session.log [.sending command.text])
    rw [run_send]
    cases (Port.deliver command.encode session.port).1 <;> exact told
  readLine _ session held := by
    rw [run_readLine]
    rcases Port.readLine session.port with ⟨error | line, port⟩
    · exact held
    · exact held.trans (List.prefix_append _ _)
  clearInput _ session held := by
    have told := held.trans (List.prefix_append session.log (Port.clearEvents session.port))
    rw [run_clearInput]
    cases (Port.clear session.port).1 <;> exact told

/-- The first event of the phases warns of the size of the certificate exactly if the device does
not load one that large. -/
theorem phases_first (plan : UploadPlan) (certificate : Certificate) (session : Session σ) :
    ∃ first, session.log ++ [first] <+: ((phases plan certificate).run session).2.log ∧
      (first = .overCapacity certificate.storedSize ↔
        Certificate.capacity ≤ certificate.storedSize) := by
  have later (log : List Event) : Upholds (fun session : Session σ => log <+: session.log)
      (afterSettling plan certificate) (fun _ session => log <+: session.log)
      (fun _ session => log <+: session.log) :=
    ((log_kept certificate log).afterSettling plan).imply fun _ _ held => held.2
  rw [phases_settling, run_bind, warnOfSize, run_tell]
  by_cases large : Certificate.capacity ≤ certificate.storedSize
  · rw [if_pos large]
    refine ⟨.overCapacity certificate.storedSize, ?_, iff_of_true rfl large⟩
    have settled := (log_kept (σ := σ) certificate
      (session.log ++ [.overCapacity certificate.storedSize])).settle [] plan
    exact (settled.bind fun _ => later _).always (List.prefix_refl _)
  · rw [if_neg large]
    refine ⟨.settling (Port.name session.port), ?_, iff_of_false Event.noConfusion large⟩
    have cleared := (log_kept (σ := σ) certificate
      (session.log ++ [.settling (Port.name session.port)])).clearInput []
    have moved : (settle plan >>= fun _ => afterSettling plan certificate).run session =
        (clearInput >>= fun _ => afterSettling plan certificate).run { session with
          port := Port.pause plan.settleDelay session.port
          log := session.log ++ [.settling (Port.name session.port)] } := by
      rw [run_bind, run_bind, run_settle]
    rw [List.append_nil]
    change _ <+: ((settle plan >>= fun _ => afterSettling plan certificate).run session).2.log
    rw [moved]
    exact (cleared.bind fun _ => later _).always (List.prefix_refl _)

end Upload

end CertConsole
