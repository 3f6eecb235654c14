import CertConsole.Proofs.Simulation

/-!
# Sequences of steps

The phases of an upload, and whole uploads, can be carried out one after the other on one port, in
any order and as often as one likes; a step that fails does not keep the next one from being carried
out. `carryOut_simulates` extends a simulation of ports to all such sequences.
-/
namespace CertConsole.Upload

open Procedure

/-- One step: a phase, or a whole upload. -/
inductive Step where
  | settle
  | begin
  | stream (certificate : Certificate)
  | finish
  | verify
  | run (certificate : Certificate)
  deriving DecidableEq, Repr

/-- What a step that did not fail has to tell. -/
inductive Finding where
  /-- Settling has nothing to tell. -/
  | settled
  /-- How the device answered the begin marker. -/
  | answered (outcome : BeginOutcome)
  /-- How many lines were sent. -/
  | sent (count : Nat)
  /-- Whether the device confirmed the save. -/
  | saved (confirmed : Bool)
  /-- What the device told about a CA certificate. -/
  | told (status : CaStatus)
  /-- The report of a whole upload. -/
  | reported (report : UploadReport)
  deriving DecidableEq, Repr

variable {σ τ : Type} [Port σ] [Port τ]

/-- What a step does. -/
def Step.procedure (plan : UploadPlan) : Step → Procedure σ Finding
  | .settle => (fun _ => .settled) <$> Upload.settle plan
  | .begin => .answered <$> Upload.begin plan
  | .stream certificate => .sent <$> Upload.stream plan certificate
  | .finish => .saved <$> Upload.finish plan
  | .verify => .told <$> Upload.verify plan
  | .run certificate => .reported <$> Upload.run plan certificate

/-- Carry out steps in a session, each where the one before it left off, and list their results. -/
def carryOut (plan : UploadPlan) :
    List Step → Session σ → List (Except PortError Finding) × Session σ
  | [], session => ([], session)
  | step :: steps, session =>
    let (result, after) := (step.procedure plan).run session
    let (results, last) := carryOut plan steps after
    (result :: results, last)

/-- The first step is carried out, and the others after it. -/
theorem carryOut_cons (plan : UploadPlan) (step : Step) (steps : List Step)
    (session : Session σ) :
    carryOut plan (step :: steps) session =
      let after := ((step.procedure plan).run session).2
      (((step.procedure plan).run session).1 :: (carryOut plan steps after).1,
        (carryOut plan steps after).2) := rfl

section

variable {related : σ → τ → Prop} (simulation : Port.Simulation related)
include simulation

/-- Every step is simulated. -/
theorem step_simulates (plan : UploadPlan) (step : Step) :
    Simulates related (step.procedure plan : Procedure σ Finding) (step.procedure plan) := by
  cases step with
  | settle => exact .map _ (settle_simulates simulation plan)
  | begin =>
    unfold Step.procedure
    rw [begin_eq, begin_eq]
    exact .map _ (.inquire simulation _ _ _ _ _ _)
  | stream certificate => exact .map _ (stream_simulates simulation plan certificate)
  | finish =>
    unfold Step.procedure
    rw [finish_eq, finish_eq]
    exact .map _ (.inquire simulation _ _ _ _ _ _)
  | verify =>
    unfold Step.procedure
    rw [verify_eq, verify_eq]
    exact .map _ (.inquire simulation _ _ _ _ _ _)
  | run certificate => exact .map _ (run_simulates simulation plan certificate)

/-- Every sequence of steps is simulated: on related ports each step has one result, one log and
one progress are told, and the ports stay related. -/
theorem carryOut_simulates (plan : UploadPlan) (steps : List Step) {first : Session σ}
    {second : Session τ} (alike : Session.Alike related first second) :
    (carryOut plan steps first).1 = (carryOut plan steps second).1 ∧
      Session.Alike related (carryOut plan steps first).2 (carryOut plan steps second).2 := by
  induction steps generalizing first second with
  | nil => exact ⟨rfl, alike⟩
  | cons step steps ih =>
    obtain ⟨same, after⟩ := step_simulates simulation plan step first second alike
    obtain ⟨rest, last⟩ := ih after
    rw [carryOut_cons, carryOut_cons]
    refine ⟨?_, last⟩
    simp only [same, rest]

end

end CertConsole.Upload
