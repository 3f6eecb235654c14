import CertConsole.Proofs.Lockstep

/-!
# What an upload keeps true of its port

A property that every single operation keeps is kept by a whole upload. A port that has it is in
lockstep with itself, so neither a loop nor a phase is opened again.
-/
namespace CertConsole

variable {σ : Type} [Port σ]

/-- Every operation keeps the property. -/
structure Port.Stable (holds : σ → Prop) : Prop where
  /-- Reading one byte keeps it. -/
  read : ∀ {port}, holds port → holds (Port.read port).2
  /-- Offering bytes keeps it. -/
  write : ∀ bytes {port}, holds port → holds (Port.write bytes port).2
  /-- Flushing keeps it. -/
  flush : ∀ {port}, holds port → holds (Port.flush port).2
  /-- Discarding input keeps it. -/
  clear : ∀ {port}, holds port → holds (Port.clear port).2
  /-- Closing keeps it. -/
  close : ∀ {port}, holds port → holds (Port.close port).2
  /-- Letting time pass keeps it. -/
  pause : ∀ span {port}, holds port → holds (Port.pause span port)

namespace Port.Stable

variable {holds : σ → Prop} (stable : Port.Stable holds)
include stable

/-- A port with a stable property is in lockstep with itself. -/
theorem lockstep : Port.Lockstep fun left right : σ => left = right ∧ holds left where
  name := by rintro port _ ⟨rfl, held⟩; rfl
  patience := by rintro port _ ⟨rfl, held⟩; rfl
  pause := by rintro span port _ ⟨rfl, held⟩; exact ⟨rfl, stable.pause span held⟩
  read := by rintro port _ ⟨rfl, held⟩; exact ⟨rfl, rfl, stable.read held⟩
  write := by rintro bytes port _ ⟨rfl, held⟩; exact ⟨rfl, rfl, stable.write bytes held⟩
  flush := by rintro port _ ⟨rfl, held⟩; exact ⟨rfl, rfl, stable.flush held⟩
  clear := by rintro port _ ⟨rfl, held⟩; exact ⟨rfl, rfl, stable.clear held⟩
  clearEvents := by rintro port _ ⟨rfl, held⟩; rfl
  close := by rintro port _ ⟨rfl, held⟩; exact ⟨rfl, rfl, stable.close held⟩
  closeEvents := by rintro port _ ⟨rfl, held⟩; rfl

/-- A whole upload keeps a stable property. -/
theorem upload (plan : UploadPlan) (certificate : Certificate) (session : Session σ)
    (held : holds session.port) :
    holds ((Upload.run plan certificate).run session).2.port :=
  (Upload.run_simulates stable.lockstep.simulation plan certificate session session
    ⟨⟨rfl, held⟩, rfl, rfl⟩).2.port.2

end Port.Stable

end CertConsole
