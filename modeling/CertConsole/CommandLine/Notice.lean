import CertConsole.Log.Style

/-!
# Notices

What a run of the program tells on standard error: events, of which the log style chooses, lines
that are told in any case, and the failure that ends a run without a report.
-/
namespace CertConsole

/-- What a run tells on its way. -/
inductive Notice where
  /-- An event, which the log may tell. -/
  | event (event : Event)
  /-- A line that is told in any case. -/
  | line (text : String)
  deriving DecidableEq, Repr

/-- How a notice is written, if it is. -/
def Notice.text? (style : LogStyle) : Notice → Option String
  | .event told => style.text? told
  | .line text => some (text ++ "\n")

/-- The text of notices. -/
def Notice.text (style : LogStyle) (notices : List Notice) : String :=
  String.join (notices.filterMap (Notice.text? style))

/-- Why a run ends without a report. -/
inductive Failure where
  /-- The configuration cannot be used. -/
  | configuration (cause : ConfigFault)
  /-- The certificate cannot be loaded. -/
  | certificate (fault : Fault)
  /-- The upload could not be carried out. -/
  | upload (port : String) (fault : Fault)
  deriving DecidableEq, Repr

namespace Failure

/-- The wording of a fault together with that of its cause. -/
def chain (fault : Fault) : String :=
  match fault.cause? with
  | some cause => fault.message ++ ": " ++ cause
  | none => fault.message

/-- The wording of a failure. -/
def message : Failure → String
  | configuration cause => chain (.config cause)
  | certificate fault => "Failed to load certificate: " ++ chain fault
  | upload port fault => "Failed to upload certificate on " ++ port ++ ": " ++ chain fault

/-- The line that tells a failure. -/
def notice (failure : Failure) : Notice := .line ("Error: " ++ failure.message)

end Failure

end CertConsole
