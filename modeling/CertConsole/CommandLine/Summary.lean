import CertConsole.Text.Json
import CertConsole.Upload.Report

/-!
# Summaries of a report

A report for people is one line for each phase and a verdict; a report for programs is JSON. Both
say the same about success.
-/
namespace CertConsole.UploadReport

/-- The lines that tell how the upload began. -/
def beginLines (report : UploadReport) : List String :=
  match report.begin with
  | .ready =>
    ["✓ Upload started", "ℹ Sent " ++ toString report.linesSent ++ " certificate lines"]
  | .refused line => ["✗ Error: " ++ line]
  | .noResponse => ["✗ Failed to start upload (no response)"]

/-- The lines that tell what the device confirmed, where the upload began at all. -/
def confirmationLines (report : UploadReport) : List String :=
  if report.begin = .ready then
    (if report.saved then ["✓ Certificate saved"] else []) ++
      match report.caStatus with
      | .present => ["✓ CA certificate present"]
      | .absent => ["⚠ CA certificate not present"]
      | .notReported => []
  else []

/-- The line that tells whether the upload succeeded. -/
def verdict (report : UploadReport) : String :=
  if report.success then "✅ Certificate uploaded successfully!" else "❌ Upload failed!"

/-- The report for people. -/
def summary (report : UploadReport) : List String :=
  report.beginLines ++ report.confirmationLines ++ ["", report.verdict]

/-- The answer to the begin marker as JSON. -/
def beginJson : BeginOutcome → Json
  | .ready => .object [("status", .string "ready")]
  | .refused line => .object [("line", .string line), ("status", .string "device_error")]
  | .noResponse => .object [("status", .string "no_response")]

/-- The name of a CA status. -/
def caStatusName : CaStatus → String
  | .present => "present"
  | .absent => "absent"
  | .notReported => "not_reported"

/-- The report for programs. The members of every object stand in the order of their names. -/
def toJson (report : UploadReport) : Json :=
  .object
    [("report", .object
      [("begin", beginJson report.begin),
       ("ca_status", .string (caStatusName report.caStatus)),
       ("lines_sent", .number report.linesSent),
       ("saved", .boolean report.saved)]),
     ("success", .boolean report.success)]

end CertConsole.UploadReport
