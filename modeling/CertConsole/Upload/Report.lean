/-!
# Upload reports

What an upload that was carried out has to tell. An upload succeeds when the device confirmed that
it saved the certificate, or reports that it has one.
-/
namespace CertConsole

/-- How the device answered the begin marker. -/
inductive BeginOutcome where
  /-- It is ready for the certificate lines. -/
  | ready
  /-- It refused, with this line. -/
  | refused (line : String)
  /-- Nothing that is an answer came. -/
  | noResponse
  deriving DecidableEq, Repr

/-- What the device told about a stored CA certificate. -/
inductive CaStatus where
  /-- There is one. -/
  | present
  /-- There is none. -/
  | absent
  /-- It did not tell. -/
  | notReported
  deriving DecidableEq, Repr

/-- The status that a CA field, if one was read, stands for. -/
def CaStatus.ofField : Option Bool → CaStatus
  | some true => .present
  | some false => .absent
  | none => .notReported

/-- The outcome of an upload. -/
structure UploadReport where
  /-- How the device answered the begin marker. -/
  begin : BeginOutcome
  /-- The certificate lines that were sent. -/
  linesSent : Nat
  /-- The device confirmed that it saved the certificate. -/
  saved : Bool
  /-- What the device told about a stored CA certificate. -/
  caStatus : CaStatus
  deriving DecidableEq, Repr

namespace UploadReport

/-- The report of an upload that the device did not let begin. -/
def aborted (begin : BeginOutcome) : UploadReport := ⟨begin, 0, false, .notReported⟩

/-- The upload succeeded: one confirmation is enough. -/
def success (report : UploadReport) : Bool := report.saved || report.caStatus == .present

end UploadReport

end CertConsole
