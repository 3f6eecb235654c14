import CertConsole.Configuration

/-!
# Configuration files

A configuration file is a TOML document with the tables `serial` and `upload`. Keys and tables that
it does not know are passed over. A section may also be an array that lists all of its settings in
order, and a moment in time in the place of a section sets nothing. Any other wrong value makes the
whole file wrong.
-/
namespace CertConsole

open Toml (Value Table)

/-- A section as it was written. -/
inductive ConfigSection where
  /-- Settings by name; none of them is needed. -/
  | named (entries : Table)
  /-- Settings by position; all of them are needed, and what follows them is passed over. -/
  | listed (items : List Value)

namespace ConfigSection

/-- The section that a value, if there is one, stands for. -/
def ofValue? : Option Value → Option ConfigSection
  | none | some (.dateTime _) => some (.named [])
  | some (.table _ entries) => some (.named entries)
  | some (.array items) => some (.listed items)
  | some _ => none

/-- A natural number below a limit. -/
def number? (limit : Nat) : Value → Option Nat
  | .integer value => if 0 ≤ value ∧ value < limit then some value.toNat else none
  | _ => none

/-- The setting of a name and a position in the section. There is none where the section is wrong,
and it is open where a section by name leaves it out. -/
def setting? (source : ConfigSection) (position : Nat) (name : String) (limit : Nat) :
    Option (Option Nat) :=
  match source with
  | named entries =>
    match entries.lookup name with
    | none => some none
    | some value => (number? limit value).map some
  | listed items => (items[position]? >>= number? limit).map some

/-- The settings of the serial port. -/
def serial? (source : ConfigSection) : Option SerialSection := do
  return {
    baud := ← source.setting? 0 "baud" UInt32.size
    timeout := ← source.setting? 1 "timeout_ms" UInt64.size }

/-- The settings of the upload. -/
def upload? (source : ConfigSection) : Option UploadSection := do
  return {
    settleDelay := ← source.setting? 0 "settle_ms" UInt64.size
    beginWait := ← source.setting? 1 "begin_wait_ms" UInt64.size
    lineDelay := ← source.setting? 2 "line_delay_ms" UInt64.size
    endWait := ← source.setting? 3 "end_wait_ms" UInt64.size
    statusWait := ← source.setting? 4 "status_wait_ms" UInt64.size
    beginAttempts := ← source.setting? 5 "begin_attempts" UInt64.size
    endAttempts := ← source.setting? 6 "end_attempts" UInt64.size
    statusAttempts := ← source.setting? 7 "status_attempts" UInt64.size }

end ConfigSection

namespace Configuration

/-- The configuration that a table describes. -/
def ofTable? (table : Table) : Option Configuration := do
  return {
    serial := ← (← ConfigSection.ofValue? (table.lookup "serial")).serial?
    upload := ← (← ConfigSection.ofValue? (table.lookup "upload")).upload? }

/-- The configuration that a text holds. -/
def ofText? (text : String) : Option Configuration := do
  ofTable? (← (← Toml.Document.read text).table)

end Configuration

end CertConsole
