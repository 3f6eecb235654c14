import CertConsole.Proofs.WireTrace

/-!
# The end of an upload

Every upload closes its port once and last. Behind an operation that fails nothing but this is
done, and the upload has that error, whatever closing comes to; the result of closing matters where
nothing failed before.
-/
namespace CertConsole.Upload

variable {σ : Type} [Port σ]

/-- An error of the phases is the error of the upload. -/
theorem run_error {plan : UploadPlan} {certificate : Certificate} {session : Session σ}
    {error : PortError} (failed : ((phases plan certificate).run session).1 = .error error) :
    ((run plan certificate).run session).1 = .error error := by
  rw [run_run]
  simp only [failed]

/-- Where the phases have a report the result of closing decides. -/
theorem run_ok {plan : UploadPlan} {certificate : Certificate} {session : Session σ}
    {report : UploadReport} (done : ((phases plan certificate).run session).1 = .ok report) :
    ((run plan certificate).run session).1 =
      (Port.close ((phases plan certificate).run session).2.port).1.map fun _ => report := by
  rw [run_run]
  simp only [done]

/-- An upload leaves the session of its phases with the port closed and this told. -/
theorem run_last (plan : UploadPlan) (certificate : Certificate) (session : Session σ) :
    ((run plan certificate).run session).2 =
      let after := ((phases plan certificate).run session).2
      { after with
        port := (Port.close after.port).2
        log := after.log ++ Port.closeEvents after.port } := by
  rw [run_run]

/-- An upload has a report where its phases have this report and closing succeeds. -/
theorem run_reports {plan : UploadPlan} {certificate : Certificate} {session : Session σ}
    {report : UploadReport} (done : ((run plan certificate).run session).1 = .ok report) :
    ((phases plan certificate).run session).1 = .ok report ∧
      (Port.close ((phases plan certificate).run session).2.port).1 = .ok () := by
  rcases outcome : ((phases plan certificate).run session).1 with error | found
  · rw [run_error outcome] at done
    cases done
  · rw [run_ok outcome] at done
    rcases closing : (Port.close ((phases plan certificate).run session).2.port).1 with
      error | ⟨⟩ <;>
      rw [closing] at done <;> cases done
    exact ⟨rfl, rfl⟩

/-- **Every path closes the port, and the first failure decides.** The operations of an upload are
those of its phases, which do not close the port, and then one that does. A phase operation that
fails is the last one of the phases and its error is the result, whatever closing comes to. If none
fails the phases have a report, and the upload has the error of closing, or else this report. -/
theorem closes_last (plan : UploadPlan) (certificate : Certificate) (session : Session σ) :
    let within := phaseOperations plan certificate session
    let closing := (Port.close ((phases plan certificate).run session).2.port).1
    let result := ((run plan certificate).run session).1
    operations plan certificate session = within ++ [.close closing] ∧
      (∀ other, .close other ∉ within) ∧
      (∀ before operation after error, within = before ++ operation :: after →
        operation.failure? = some error → after = [] ∧ result = .error error) ∧
      ((∀ operation ∈ within, operation.failure? = none) →
        ∃ report, ((phases plan certificate).run session).1 = .ok report ∧
          (∀ error, closing = .error error → result = .error error) ∧
          (closing = .ok () → result = .ok report)) := by
  intro within closing result
  obtain ⟨sent, orderly, -, -⟩ := phaseOperations_orderly plan certificate session
  refine ⟨operations_eq plan certificate session, orderly.staysOpen, ?_, ?_⟩
  · intro before operation after error cut failed
    obtain ⟨last, stopped⟩ := orderly.stops.first cut failed
    refine ⟨last, run_error ?_⟩
    rcases outcome : ((phases plan certificate).run session).1 with failure | report <;>
      rw [outcome] at stopped <;> cases stopped
    rfl
  · intro fine
    have passed := orderly.stops.fine fine
    rcases outcome : ((phases plan certificate).run session).1 with failure | report
    · rw [outcome] at passed
      cases passed
    · have closed : result = closing.map fun _ => report := run_ok outcome
      refine ⟨report, rfl, ?_, ?_⟩
      · intro error failed
        rw [closed, failed]
        rfl
      · intro done
        rw [closed, done]
        rfl

end CertConsole.Upload
