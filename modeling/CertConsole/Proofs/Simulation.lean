import CertConsole.Proofs.Procedure

/-!
# Simulations between ports

A relation between the states of two ports is a simulation when whatever an upload does to related
ports has the same outcome on both and leaves them related. An upload asks a port for lines and
hands it whole buffers, so the relation is judged at these operations and not at single bytes.
`run_simulates` then carries it through a whole upload: same result, same log, same progress.
-/
namespace CertConsole

variable {σ τ α β : Type}

/-- Two outcomes of an operation agree when they are one and leave related states. -/
def Port.Agree {ε : Type} (related : σ → τ → Prop) (left : ε × σ) (right : ε × τ) : Prop :=
  left.1 = right.1 ∧ related left.2 right.2

/-- Related ports cannot be told apart by the operations of an upload. -/
structure Port.Simulation [Port σ] [Port τ] (related : σ → τ → Prop) : Prop where
  /-- They have one name. -/
  name : ∀ {left right}, related left right → Port.name left = Port.name right
  /-- Time that passes keeps them related. -/
  pause : ∀ span {left right}, related left right →
    related (Port.pause span left) (Port.pause span right)
  /-- They deliver the same buffers. -/
  deliver : ∀ bytes {left right}, related left right →
    Port.Agree related (Port.deliver bytes left) (Port.deliver bytes right)
  /-- The same lines are read from them. -/
  readLine : ∀ {left right}, related left right →
    Port.Agree related (Port.readLine left) (Port.readLine right)
  /-- They discard input alike. -/
  clear : ∀ {left right}, related left right →
    Port.Agree related (Port.clear left) (Port.clear right)
  /-- They tell the same of discarding input. -/
  clearEvents : ∀ {left right}, related left right →
    Port.clearEvents left = Port.clearEvents right
  /-- They are closed alike. -/
  close : ∀ {left right}, related left right →
    Port.Agree related (Port.close left) (Port.close right)
  /-- They tell the same of being closed. -/
  closeEvents : ∀ {left right}, related left right →
    Port.closeEvents left = Port.closeEvents right

/-- Sessions with related ports in which the same was told. -/
structure Session.Alike (related : σ → τ → Prop) (left : Session σ) (right : Session τ) :
    Prop where
  /-- The ports are related. -/
  port : related left.port right.port
  /-- The logs are one. -/
  log : left.log = right.log
  /-- The same progress was reported. -/
  progress : left.progress = right.progress

namespace Procedure

/-- Two procedures have the same outcome in sessions that are alike and keep them so. -/
def Simulates (related : σ → τ → Prop) (left : Procedure σ α) (right : Procedure τ α) : Prop :=
  ∀ first second, Session.Alike related first second →
    (left.run first).1 = (right.run second).1 ∧
      Session.Alike related (left.run first).2 (right.run second).2

namespace Simulates

variable {related : σ → τ → Prop}

theorem pure (value : α) :
    Simulates related (Pure.pure value : Procedure σ α) (Pure.pure value) :=
  fun _ _ alike => ⟨rfl, alike⟩

/-- Simulations compose step by step. -/
theorem bind {left : Procedure σ α} {right : Procedure τ α} {next : α → Procedure σ β}
    {other : α → Procedure τ β} (head : Simulates related left right)
    (tail : ∀ value, Simulates related (next value) (other value)) :
    Simulates related (left >>= next) (right >>= other) := by
  intro first second alike
  obtain ⟨same, after⟩ := head first second alike
  rw [run_bind, run_bind]
  rcases here : left.run first with ⟨error | value, between⟩
  · rcases there : right.run second with ⟨error' | value', between'⟩
    · rw [here, there] at same after
      exact ⟨congrArg _ (Except.error.inj same), after⟩
    · rw [here, there] at same
      cases same
  · rcases there : right.run second with ⟨error' | value', between'⟩
    · rw [here, there] at same
      cases same
    · rw [here, there] at same after
      cases same
      exact tail value between between' after

/-- Values that agree agree after the same function. -/
theorem map (change : α → β) {left : Procedure σ α} {right : Procedure τ α}
    (same : Simulates related left right) :
    Simulates related (change <$> left) (change <$> right) := by
  intro first second alike
  obtain ⟨agree, after⟩ := same first second alike
  rw [run_map, run_map, agree]
  exact ⟨rfl, after⟩

/-- What is told does not depend on the port. -/
theorem tell (events : List Event) :
    Simulates related (Procedure.tell events : Procedure σ Unit) (Procedure.tell events) :=
  fun _ _ alike => ⟨rfl, alike.port, congrArg (· ++ events) alike.log, alike.progress⟩

/-- Progress does not depend on the port. -/
theorem advance (sent total : Nat) :
    Simulates related (Procedure.advance sent total : Procedure σ Unit)
      (Procedure.advance sent total) :=
  fun _ _ alike => ⟨rfl, alike.port, alike.log, congrArg (· ++ [(sent, total)]) alike.progress⟩

variable [Port σ] [Port τ] (simulation : Port.Simulation related)
include simulation

theorem pause (span : Milliseconds) :
    Simulates related (Procedure.pause span : Procedure σ Unit) (Procedure.pause span) :=
  fun _ _ alike => ⟨rfl, simulation.pause span alike.port, alike.log, alike.progress⟩

theorem send (command : Command) :
    Simulates related (Procedure.send command : Procedure σ Unit) (Procedure.send command) := by
  intro first second alike
  obtain ⟨same, after⟩ := simulation.deliver command.encode alike.port
  rw [run_send, run_send, same]
  exact ⟨rfl, after, congrArg (· ++ _) alike.log, alike.progress⟩

theorem readLine :
    Simulates related (Procedure.readLine : Procedure σ String) Procedure.readLine := by
  intro first second alike
  have agree := simulation.readLine alike.port
  rw [run_readLine, run_readLine]
  rcases here : Port.readLine first.port with ⟨error | line, left⟩ <;>
    rcases there : Port.readLine second.port with ⟨error' | line', right⟩ <;>
    rw [here, there] at agree <;> obtain ⟨same, after⟩ := agree <;> cases same
  · exact ⟨rfl, after, alike.log, alike.progress⟩
  · exact ⟨rfl, after, congrArg (· ++ _) alike.log, alike.progress⟩

theorem poll (find : String → Option α) (attempts : Nat) :
    Simulates related (Procedure.poll find attempts : Procedure σ (Option α))
      (Procedure.poll find attempts) := by
  induction attempts with
  | zero => exact .pure none
  | succ attempts ih =>
    rw [poll_succ, poll_succ]
    refine bind (readLine simulation) fun line => ?_
    cases answerIn find line with
    | none => exact ih
    | some found => exact .pure _

theorem clearInput :
    Simulates related (Procedure.clearInput : Procedure σ Unit) Procedure.clearInput := by
  intro first second alike
  obtain ⟨same, after⟩ := simulation.clear alike.port
  rw [run_clearInput, run_clearInput, simulation.clearEvents alike.port]
  exact ⟨same, after, congrArg (· ++ _) alike.log, alike.progress⟩

theorem inquire (command : Command) (wait : Milliseconds) (find : String → Option α)
    (attempts : Nat) (conclude : Option α → β) (event : β → Event) :
    Simulates related (Procedure.inquire command wait find attempts conclude event : Procedure σ β)
      (Procedure.inquire command wait find attempts conclude event) :=
  .bind (.send simulation _) fun _ => .bind (.pause simulation _) fun _ =>
    .bind (.poll simulation _ _) fun _ => .bind (.tell _) fun _ => .pure _

end Simulates

end Procedure

namespace Upload

open Procedure

variable [Port σ] [Port τ] {related : σ → τ → Prop} (simulation : Port.Simulation related)
include simulation

theorem settle_simulates (plan : UploadPlan) :
    Simulates related (settle plan : Procedure σ Unit) (settle plan) := by
  intro first second alike
  rw [run_settle, run_settle, simulation.name alike.port]
  exact Simulates.clearInput simulation _ _
    ⟨simulation.pause _ alike.port, congrArg (· ++ _) alike.log, alike.progress⟩

/-- Streaming from any line on is simulated. -/
theorem streamFrom_simulates (delay : Milliseconds) (total sent : Nat) (lines : List String) :
    Simulates related (streamFrom delay total sent lines : Procedure σ Nat)
      (streamFrom delay total sent lines) := by
  induction lines generalizing sent with
  | nil => exact .pure sent
  | cons line lines ih =>
    exact .bind (.send simulation _) fun _ => .bind (.pause simulation _) fun _ =>
      .bind (.readLine simulation) fun _ => .bind (.advance _ _) fun _ => ih (sent + 1)

theorem stream_simulates (plan : UploadPlan) (certificate : Certificate) :
    Simulates related (stream plan certificate : Procedure σ Nat) (stream plan certificate) :=
  .bind (.tell _) fun _ => streamFrom_simulates simulation _ _ _ _

theorem transfer_simulates (plan : UploadPlan) (certificate : Certificate) :
    Simulates related (transfer plan certificate : Procedure σ UploadReport)
      (transfer plan certificate) := by
  unfold transfer
  rw [finish_eq, finish_eq, verify_eq, verify_eq]
  exact .bind (stream_simulates simulation plan certificate) fun _ =>
    .bind (.inquire simulation _ _ _ _ _ _) fun _ =>
      .bind (.inquire simulation _ _ _ _ _ _) fun _ => .bind (.tell _) fun _ => .pure _

/-- What follows the begin phase is simulated, whatever its outcome. -/
theorem afterBegin_simulates (plan : UploadPlan) (certificate : Certificate)
    (outcome : BeginOutcome) :
    Simulates related (afterBegin plan certificate outcome : Procedure σ UploadReport)
      (afterBegin plan certificate outcome) := by
  cases outcome with
  | ready => exact transfer_simulates simulation plan certificate
  | refused line => exact .pure _
  | noResponse => exact .pure _

/-- What follows settling is simulated. -/
theorem afterSettling_simulates (plan : UploadPlan) (certificate : Certificate) :
    Simulates related (afterSettling plan certificate : Procedure σ UploadReport)
      (afterSettling plan certificate) := by
  unfold afterSettling
  rw [begin_eq, begin_eq]
  exact .bind (.inquire simulation _ _ _ _ _ _) fun outcome =>
    afterBegin_simulates simulation plan certificate outcome

theorem phases_simulates (plan : UploadPlan) (certificate : Certificate) :
    Simulates related (phases plan certificate : Procedure σ UploadReport)
      (phases plan certificate) := by
  rw [phases_settling, phases_settling]
  exact .bind (.tell _) fun _ => .bind (settle_simulates simulation plan) fun _ =>
    afterSettling_simulates simulation plan certificate

/-- **A whole upload is simulated.** On related ports it has one result, tells one log and one
progress, and leaves the ports related. -/
theorem run_simulates (plan : UploadPlan) (certificate : Certificate) :
    Simulates related (run plan certificate : Procedure σ UploadReport)
      (run plan certificate) := by
  intro first second alike
  obtain ⟨same, after⟩ := phases_simulates simulation plan certificate first second alike
  obtain ⟨closed, last⟩ := simulation.close after.port
  rw [run_run, run_run]
  simp only [same, closed, simulation.closeEvents after.port]
  exact ⟨trivial, last, congrArg (· ++ _) after.log, after.progress⟩

end Upload

end CertConsole
