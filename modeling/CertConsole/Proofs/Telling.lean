import CertConsole.Proofs.Procedure

/-!
# What is told is only appended

A procedure tells its log and its progress and never looks at either. So its course does not depend
on what was told before it: it has one result, it leaves one port, and it appends the same events
and the same entries (`Appends`). Behind the warning about the size of a certificate no event of an
upload warns of it, and only sent lines are entered in the progress.
-/
namespace CertConsole

/-- The event warns that a certificate is too large. -/
def Event.warnsOfSize : Event → Bool
  | .overCapacity _ => true
  | _ => false

/-- The event does not warn of a size, unless it is something that a port tells of its input. -/
def Event.Ordinary (σ : Type) [Port σ] (event : Event) : Prop :=
  event.warnsOfSize = true → ∃ port : σ, event ∈ Port.clearEvents port

theorem Event.Ordinary.of_silent {σ : Type} [Port σ] {event : Event}
    (silent : event.warnsOfSize = false) : event.Ordinary σ := by
  intro warns
  rw [silent] at warns
  cases warns

namespace Procedure

variable {σ α β : Type} [Port σ]

/-- From any port a procedure has one outcome, whatever was told before, and appends ordinary events
to the log and entries of some kind to the progress. -/
def Appends (entries : Nat × Nat → Prop) (procedure : Procedure σ α) : Prop :=
  ∀ port, ∃ result last told counted,
    (∀ event ∈ told, event.Ordinary σ) ∧ (∀ entry ∈ counted, entries entry) ∧
    ∀ log progress, procedure.run ⟨port, log, progress⟩ =
      (result, ⟨last, log ++ told, progress ++ counted⟩)

namespace Appends

variable {entries : Nat × Nat → Prop}

/-- A step that tells events and reports no progress. -/
theorem telling {procedure : Procedure σ α} (step : ∀ port, ∃ result last told,
      (∀ event ∈ told, event.Ordinary σ) ∧ ∀ log progress,
        procedure.run ⟨port, log, progress⟩ = (result, ⟨last, log ++ told, progress⟩)) :
    Appends entries procedure := by
  intro port
  obtain ⟨result, last, told, ordinary, runs⟩ := step port
  refine ⟨result, last, told, [], ordinary, nofun, fun log progress => ?_⟩
  rw [runs, List.append_nil]

/-- A step that tells nothing at all. -/
theorem quiet {procedure : Procedure σ α} (step : ∀ port, ∃ result last, ∀ log progress,
      procedure.run ⟨port, log, progress⟩ = (result, ⟨last, log, progress⟩)) :
    Appends entries procedure := by
  refine telling fun port => ?_
  obtain ⟨result, last, runs⟩ := step port
  refine ⟨result, last, [], nofun, fun log progress => ?_⟩
  rw [runs, List.append_nil]

theorem pure (value : α) : Appends entries (Pure.pure value : Procedure σ α) :=
  quiet fun port => ⟨.ok value, port, fun _ _ => rfl⟩

/-- What two steps tell stands on end. -/
theorem bind {first : Procedure σ α} {next : α → Procedure σ β} (head : Appends entries first)
    (tail : ∀ value, Appends entries (next value)) : Appends entries (first >>= next) := by
  intro port
  obtain ⟨result, between, told, counted, ordinary, kind, runs⟩ := head port
  cases result with
  | error error =>
    refine ⟨.error error, between, told, counted, ordinary, kind, fun log progress => ?_⟩
    rw [run_bind, runs]
  | ok value =>
    obtain ⟨result, last, later, more, ordinaryToo, kindToo, goesOn⟩ := tail value between
    refine ⟨result, last, told ++ later, counted ++ more, ?_, ?_, fun log progress => ?_⟩
    · intro event inside
      exact (List.mem_append.mp inside).elim (ordinary event) (ordinaryToo event)
    · intro entry inside
      exact (List.mem_append.mp inside).elim (kind entry) (kindToo entry)
    · rw [run_bind, runs]
      simp only [goesOn, List.append_assoc]

theorem tell {event : Event} (silent : event.warnsOfSize = false) :
    Appends entries (Procedure.tell [event] : Procedure σ Unit) := by
  refine telling fun port => ⟨.ok (), port, [event], ?_, fun _ _ => rfl⟩
  intro other inside
  rw [List.mem_singleton.mp inside]
  exact .of_silent silent

theorem advance {sent total : Nat} (entered : entries (sent, total)) :
    Appends entries (Procedure.advance sent total : Procedure σ Unit) := by
  refine fun port => ⟨.ok (), port, [], [(sent, total)], nofun, ?_, fun log progress => ?_⟩
  · intro entry inside
    rw [List.mem_singleton.mp inside]
    exact entered
  · rw [run_advance, List.append_nil]

theorem pause (span : Milliseconds) :
    Appends entries (Procedure.pause span : Procedure σ Unit) :=
  quiet fun port => ⟨.ok (), Port.pause span port, fun _ _ => rfl⟩

theorem send (command : Command) :
    Appends entries (Procedure.send command : Procedure σ Unit) := by
  refine telling fun port => ⟨(Port.deliver command.encode port).1.mapError .channel,
    (Port.deliver command.encode port).2, [.sending command.text], ?_, fun _ _ => rfl⟩
  intro event inside
  rw [List.mem_singleton.mp inside]
  exact .of_silent rfl

theorem readLine : Appends entries (Procedure.readLine : Procedure σ String) := by
  refine telling fun port => ?_
  cases read : (Port.readLine port).1 with
  | error error =>
    refine ⟨.error (.channel error), (Port.readLine port).2, [], nofun, fun log progress => ?_⟩
    rw [List.append_nil]
    exact @run_readLine_error σ _ ⟨port, log, progress⟩ error read
  | ok line =>
    refine ⟨.ok line, (Port.readLine port).2, lineEvents line, ?_, fun log progress => ?_⟩
    · intro event inside
      by_cases empty : line = ""
      · rw [lineEvents, if_pos empty] at inside
        cases inside
      · rw [lineEvents, if_neg empty] at inside
        rw [List.mem_singleton.mp inside]
        exact .of_silent rfl
    · exact @run_readLine_ok σ _ ⟨port, log, progress⟩ line read

theorem poll (find : String → Option α) (attempts : Nat) :
    Appends entries (Procedure.poll find attempts : Procedure σ (Option α)) := by
  induction attempts with
  | zero => exact .pure none
  | succ attempts ih =>
    rw [poll_succ]
    refine .bind .readLine fun line => ?_
    cases answerIn find line with
    | none => exact ih
    | some found => exact .pure (some found)

theorem clearInput : Appends entries (Procedure.clearInput : Procedure σ Unit) :=
  telling fun port => ⟨(Port.clear port).1, (Port.clear port).2, Port.clearEvents port,
    fun _ told _ => ⟨port, told⟩, fun _ _ => rfl⟩

/-- An inquiry tells its command, the lines that it reads and what it comes to. -/
theorem inquire (command : Command) (wait : Milliseconds) (find : String → Option α)
    (attempts : Nat) (conclude : Option α → β) {event : β → Event}
    (silent : ∀ value, (event value).warnsOfSize = false) :
    Appends entries
      (Procedure.inquire command wait find attempts conclude event : Procedure σ β) :=
  .bind (.send _) fun _ => .bind (.pause _) fun _ => .bind (.poll _ _) fun _ =>
    .bind (.tell (silent _)) fun _ => .pure _

/-- A procedure that enters nothing leaves the progress alone. -/
theorem progress_kept {procedure : Procedure σ α}
    (appends : Appends (fun _ => False) procedure) (session : Session σ) :
    (procedure.run session).2.progress = session.progress := by
  obtain ⟨result, last, told, counted, -, none, runs⟩ := appends session.port
  have empty : counted = [] := List.eq_nil_iff_forall_not_mem.mpr none
  have kept := runs session.log session.progress
  rw [empty, List.append_nil] at kept
  exact congrArg (fun outcome => outcome.2.progress) kept

end Appends

end Procedure

namespace Upload

open Procedure

variable {σ : Type} [Port σ] {entries : Nat × Nat → Prop}

theorem settle_appends (plan : UploadPlan) :
    Appends entries (settle plan : Procedure σ Unit) := by
  have named (port : σ) : Appends entries
      (Procedure.tell [.settling (Port.name port)] >>= fun _ =>
        Procedure.pause plan.settleDelay >>= fun _ => clearInput : Procedure σ Unit) :=
    .bind (.tell rfl) fun _ => .bind (.pause _) fun _ => .clearInput
  exact fun port => named port port

theorem begin_appends (plan : UploadPlan) :
    Appends entries (begin plan : Procedure σ BeginOutcome) := by
  rw [begin_eq]
  exact .inquire _ _ _ _ _ fun outcome => by cases outcome <;> rfl

theorem finish_appends (plan : UploadPlan) :
    Appends entries (finish plan : Procedure σ Bool) := by
  rw [finish_eq]
  exact .inquire _ _ _ _ _ fun saved => by cases saved <;> rfl

theorem verify_appends (plan : UploadPlan) :
    Appends entries (verify plan : Procedure σ CaStatus) := by
  rw [verify_eq]
  exact .inquire _ _ _ _ _ fun status => by cases status <;> rfl

/-- What follows the lines reports no progress. -/
def conclusion (plan : UploadPlan) (linesSent : Nat) : Procedure σ UploadReport := do
  let saved ← finish plan
  let caStatus ← verify plan
  let report : UploadReport := ⟨.ready, linesSent, saved, caStatus⟩
  tell [if report.success then .uploadConfirmed else .uploadUnconfirmed]
  return report

theorem transfer_eq (plan : UploadPlan) (certificate : Certificate) :
    (transfer plan certificate : Procedure σ UploadReport) =
      stream plan certificate >>= conclusion plan := rfl

theorem conclusion_appends (plan : UploadPlan) (linesSent : Nat) :
    Appends entries (conclusion plan linesSent : Procedure σ UploadReport) := by
  refine .bind (finish_appends plan) fun saved => .bind (verify_appends plan) fun caStatus =>
    .bind (.tell ?_) fun _ => .pure _
  cases UploadReport.success ⟨.ready, linesSent, saved, caStatus⟩ <;> rfl

/-- Streaming enters the numbers of the lines. -/
theorem streamFrom_appends (every : ∀ entry, entries entry) (delay : Milliseconds)
    (total sent : Nat) (lines : List String) :
    Appends entries (streamFrom delay total sent lines : Procedure σ Nat) := by
  induction lines generalizing sent with
  | nil => exact .pure sent
  | cons line lines ih =>
    exact .bind (.send _) fun _ => .bind (.pause _) fun _ => .bind .readLine fun _ =>
      .bind (.advance (every _)) fun _ => ih (sent + 1)

/-- What follows settling tells nothing of the size of the certificate. -/
theorem afterSettling_appends (every : ∀ entry, entries entry) (plan : UploadPlan)
    (certificate : Certificate) :
    Appends entries (afterSettling plan certificate : Procedure σ UploadReport) := by
  have streamed : Appends entries (stream plan certificate : Procedure σ Nat) :=
    .bind (.tell rfl) fun _ => streamFrom_appends every _ _ _ _
  refine .bind (begin_appends plan) fun outcome => ?_
  cases outcome with
  | ready =>
    rw [afterBegin, transfer_eq]
    exact .bind streamed fun linesSent => conclusion_appends plan linesSent
  | refused line => exact .pure _
  | noResponse => exact .pure _

end Upload

end CertConsole
