import CertConsole.Proofs.Lockstep

/-!
# Recorded ports

A recorded port is a port that writes down its operations, each with what came of it. An upload
does not notice the recording (`run_recording`), so the operations of an upload over any port are
those that it makes over the recorded one. Pauses are not operations: they ask nothing of a port
and cannot fail.
-/
namespace CertConsole

/-- One operation of a port and what came of it. -/
inductive Operation where
  /-- One byte was asked for. -/
  | read (found : ReadResult)
  /-- Bytes were offered. -/
  | write (bytes : List UInt8) (result : WriteResult)
  /-- The port was told to send what it had accepted. -/
  | flush (result : Except ChannelError Unit)
  /-- Input was to be discarded. -/
  | clear (result : Except PortError Unit)
  /-- The port was to be closed. -/
  | close (result : Except PortError Unit)

namespace Operation

/-- The bytes that an operation handed over to the port. -/
def accepted : Operation → List UInt8
  | .write bytes (.accepted count) => bytes.take count
  | _ => []

/-- The operation closes the port. -/
def closes : Operation → Bool
  | .close _ => true
  | _ => false

/-- The error with which an operation ends an upload. An interruption is fatal to a flush only, and
silence to no read. -/
def failure? : Operation → Option PortError
  | .read (.failed error) =>
    if error.kind = .interrupted ∨ error.isSilence = true then none else some (.channel error)
  | .write _ (.failed error) =>
    if error.kind = .interrupted then none else some (.channel error)
  | .write (_ :: _) (.accepted 0) => some (.channel .nothingWritten)
  | .flush (.error error) => some (.channel error)
  | .clear (.error error) | .close (.error error) => some error
  | _ => none

end Operation

/-- The bytes that a port took in the course of some operations. -/
def acceptedBytes (operations : List Operation) : List UInt8 :=
  operations.flatMap Operation.accepted

/-- A port and the operations made on it since the record began. -/
structure Recorded (σ : Type) where
  /-- The port. -/
  port : σ
  /-- Its operations, in order. -/
  operations : List Operation := []

namespace Recorded

variable {σ α : Type}

/-- The record once an operation on its port has had a result. -/
def enter (record : Recorded σ) (entry : α → Operation) (result : α × σ) : α × Recorded σ :=
  (result.1, { port := result.2, operations := record.operations ++ [entry result.1] })

variable [Port σ]

instance : Port (Recorded σ) where
  name record := Port.name record.port
  patience record := Port.patience record.port
  read record := record.enter .read (Port.read record.port)
  write bytes record := record.enter (.write bytes) (Port.write bytes record.port)
  flush record := record.enter .flush (Port.flush record.port)
  clear record := record.enter .clear (Port.clear record.port)
  clearEvents record := Port.clearEvents record.port
  close record := record.enter .close (Port.close record.port)
  closeEvents record := Port.closeEvents record.port
  pause span record := { record with port := Port.pause span record.port }
  stalls record := Port.stalls record.port
  stalls_of_interrupted bytes record error record' written interrupted := by
    simp only [enter, Prod.mk.injEq] at written
    obtain ⟨failed, rfl⟩ := written
    exact Port.stalls_of_interrupted bytes record.port error _ (Prod.ext failed rfl) interrupted
  stalls_of_accepted bytes record count record' written := by
    simp only [enter, Prod.mk.injEq] at written
    obtain ⟨accepted, rfl⟩ := written
    exact Port.stalls_of_accepted bytes record.port count _ (Prod.ext accepted rfl)

/-- A write to a recorded port is entered with its result. -/
theorem write_entered {bytes : List UInt8} {record next : Recorded σ} {result : WriteResult}
    (wrote : Port.write bytes record = (result, next)) :
    next.operations = record.operations ++ [.write bytes result] := by
  obtain ⟨rfl, rfl⟩ := Prod.mk.inj wrote
  rfl

/-- The state of a recorded port is that of its port. -/
abbrev Mirrors (record : Recorded σ) (port : σ) : Prop := record.port = port

/-- A recorded port and its port are in lockstep. -/
theorem mirrors_lockstep : Port.Lockstep (Mirrors (σ := σ)) where
  name := by rintro record _ rfl; rfl
  patience := by rintro record _ rfl; rfl
  pause := by rintro span record _ rfl; rfl
  read := by rintro record _ rfl; exact ⟨rfl, rfl⟩
  write := by rintro bytes record _ rfl; exact ⟨rfl, rfl⟩
  flush := by rintro record _ rfl; exact ⟨rfl, rfl⟩
  clear := by rintro record _ rfl; exact ⟨rfl, rfl⟩
  clearEvents := by rintro record _ rfl; rfl
  close := by rintro record _ rfl; exact ⟨rfl, rfl⟩
  closeEvents := by rintro record _ rfl; rfl

/-- Nothing that an upload does to a port tells whether it is recorded. -/
theorem mirrors_simulation : Port.Simulation (Mirrors (σ := σ)) := mirrors_lockstep.simulation

end Recorded

/-- A session whose port is recorded from here on. -/
def Session.recording {σ : Type} (session : Session σ) : Session (Recorded σ) :=
  { session with port := { port := session.port } }

namespace Upload

variable {σ : Type} [Port σ]

/-- The operations that an upload makes on its port. -/
def operations (plan : UploadPlan) (certificate : Certificate) (session : Session σ) :
    List Operation :=
  ((run plan certificate).run session.recording).2.port.operations

/-- The operations that the phases of an upload make on its port. -/
def phaseOperations (plan : UploadPlan) (certificate : Certificate) (session : Session σ) :
    List Operation :=
  ((phases plan certificate).run session.recording).2.port.operations

omit [Port σ] in
/-- Recording starts with what was told before. -/
theorem recording_alike (session : Session σ) :
    Session.Alike Recorded.Mirrors session.recording session :=
  ⟨rfl, rfl, rfl⟩

/-- Recorded phases have the outcome of the phases. -/
theorem phases_recording (plan : UploadPlan) (certificate : Certificate) (session : Session σ) :
    ((phases plan certificate).run session.recording).1 =
        ((phases plan certificate).run session).1 ∧
      Session.Alike Recorded.Mirrors ((phases plan certificate).run session.recording).2
        ((phases plan certificate).run session).2 :=
  phases_simulates Recorded.mirrors_simulation plan certificate _ _ (recording_alike session)

/-- A recorded upload has the outcome of the upload. -/
theorem run_recording (plan : UploadPlan) (certificate : Certificate) (session : Session σ) :
    ((run plan certificate).run session.recording).1 = ((run plan certificate).run session).1 ∧
      Session.Alike Recorded.Mirrors ((run plan certificate).run session.recording).2
        ((run plan certificate).run session).2 :=
  run_simulates Recorded.mirrors_simulation plan certificate _ _ (recording_alike session)

/-- The operations of an upload are those of its phases and then one close, whose result is that of
closing the port as the phases left it. -/
theorem operations_eq (plan : UploadPlan) (certificate : Certificate) (session : Session σ) :
    operations plan certificate session =
      phaseOperations plan certificate session ++
        [.close (Port.close ((phases plan certificate).run session).2.port).1] := by
  have mirrored := (phases_recording plan certificate session).2.port
  unfold operations phaseOperations
  rw [run_run, ← mirrored]
  rfl

end Upload

end CertConsole
