import CertConsole.Port.SerialLine
import CertConsole.Proofs.CertificateText
import CertConsole.Proofs.Closing
import CertConsole.Proofs.Telling

/-!
# The stored size

The normal form of a certificate is each line with one line feed behind it. The stored size is the
number of its bytes, so it is what a device stores, what decides whether an upload warns, and what
an upload puts on the wire but for the front and the terminator of each command
(`stored_size_exact`). The warning is all that depends on it: an upload that does not look at the
size takes the same course (`run_unwarned`).
-/
namespace CertConsole

/-- The number of bytes that some characters are written with. -/
theorem Utf8.length_encode (text : List Char) :
    (encode text).length = (String.ofList text).utf8ByteSize := by
  rw [← String.size_toByteArray, String.toByteArray_ofList, List.utf8Encode,
    List.size_toByteArray]
  rfl

namespace Certificate

/-- The text of a certificate in which one line feed ends each line. -/
def normalForm (certificate : Certificate) : String :=
  String.join (certificate.lines.map (· ++ "\n"))

theorem normalForm_cons (line : String) (lines : List String) :
    normalForm ⟨line :: lines⟩ = line ++ "\n" ++ normalForm ⟨lines⟩ :=
  String.join_cons

/-- A line counts with its bytes and one more. -/
theorem storedSize_cons (line : String) (lines : List String) :
    storedSize ⟨line :: lines⟩ = line.utf8ByteSize + 1 + storedSize ⟨lines⟩ := by
  change (Utf8.encode line.toList).length + 1 + storedSize ⟨lines⟩ = _
  rw [Utf8.length_encode, String.ofList_toList]

/-- The stored size is the size of the normal form. -/
theorem storedSize_eq (lines : List String) :
    storedSize ⟨lines⟩ = (normalForm ⟨lines⟩).utf8ByteSize := by
  induction lines with
  | nil => rfl
  | cons line lines ih =>
    rw [storedSize_cons, normalForm_cons, String.utf8ByteSize_append, String.utf8ByteSize_append,
      ih]
    rfl

/-- Lines that are counted first do not count more than all lines. -/
theorem storedSize_prefix {counted lines : List String} (first : counted <+: lines) :
    storedSize ⟨counted⟩ ≤ storedSize ⟨lines⟩ := by
  induction counted generalizing lines with
  | nil => exact Nat.zero_le _
  | cons line counted ih =>
    obtain ⟨rest, rfl⟩ := first
    have fewer := ih (List.prefix_append counted rest)
    rw [List.cons_append, storedSize_cons, storedSize_cons]
    omega

/-- Only a certificate without lines has the size zero. -/
theorem storedSize_eq_zero_iff (certificate : Certificate) :
    certificate.storedSize = 0 ↔ certificate.isEmpty = true := by
  obtain ⟨lines⟩ := certificate
  cases lines with
  | nil => exact iff_of_true rfl rfl
  | cons line lines =>
    refine iff_of_false ?_ Bool.false_ne_true
    rw [storedSize_cons]
    omega

/-- Each line behind another one is paid for by its own bytes and a line end ahead of it. -/
theorem Behind.storedSize_le {lines : List String} {rest : List Char}
    (behind : Behind lines rest) : storedSize ⟨lines⟩ ≤ (String.ofList rest).utf8ByteSize := by
  induction behind with
  | last ends => exact Nat.zero_le _
  | @next gap rest line lines ends apart proper later ih =>
    have ended : (String.ofList gap).utf8ByteSize ≠ 0 := by
      rw [Ne, String.utf8ByteSize_eq_zero_iff, String.ofList_eq_empty_iff]
      exact apart
    rw [storedSize_cons, String.ofList_append, String.ofList_append, String.ofList_toList,
      String.utf8ByteSize_append, String.utf8ByteSize_append]
    omega

/-- Only the first line of a text may count with one byte that the text does not have. -/
theorem storedSize_ofText_le (text : String) :
    (ofText text).storedSize ≤ text.utf8ByteSize + 1 := by
  obtain ⟨lines, laidOut⟩ := exists_laidOut text.toList
  have read : linesIn text.toList = lines := laidOut.linesIn_eq
  rw [ofText_eq read, ← @String.ofList_toList text]
  generalize text.toList = chars at laidOut
  cases laidOut with
  | blank ends => exact Nat.zero_le _
  | starts ends proper later =>
    have paid := later.storedSize_le
    rw [storedSize_cons, String.ofList_append, String.ofList_append, String.ofList_toList,
      String.utf8ByteSize_append, String.utf8ByteSize_append]
    omega

/-- Lines in normal form are read back. -/
theorem linesIn_normalForm {lines : List String} (proper : ∀ line ∈ lines, IsLine line) :
    linesIn (normalForm ⟨lines⟩).toList = lines := by
  induction lines with
  | nil => exact linesIn_nil
  | cons line lines ih =>
    have first := linesIn_line (proper line List.mem_cons_self)
    have later := ih fun other inside => proper other (List.mem_cons_of_mem _ inside)
    have feed := LineEnding.feed.ends
    have parted := linesIn_gap feed.1 feed.2 line.toList (normalForm ⟨lines⟩).toList
    rw [first, later] at parted
    rw [normalForm_cons, String.toList_append, String.toList_append]
    exact parted

/-- A certificate is that of its normal form. -/
theorem ofText_normalForm (text : String) : ofText (ofText text).normalForm = ofText text := by
  have proper := ofText_isLine text
  generalize ofText text = certificate at proper ⊢
  exact ofText_eq (linesIn_normalForm proper)

end Certificate

/-- A port that tells of no size when input is discarded and when it is closed. -/
structure Port.TellsNoSize (σ : Type) [Port σ] : Prop where
  clearing : ∀ port : σ, ∀ event ∈ Port.clearEvents port, event.warnsOfSize = false
  closing : ∀ port : σ, ∀ event ∈ Port.closeEvents port, event.warnsOfSize = false

/-- A device in memory tells nothing. -/
theorem Device.tellsNoSize : Port.TellsNoSize Device where
  clearing _ _ inside := absurd inside List.not_mem_nil
  closing _ _ inside := absurd inside List.not_mem_nil

/-- A serial line tells that input is discarded and that it is closed, and no more. -/
theorem SerialLine.tellsNoSize : Port.TellsNoSize SerialLine where
  clearing line event inside := by
    change event ∈ (if line.device.isClosed then [] else [.discardingInput line.name]) at inside
    split at inside
    · cases inside
    · rw [List.mem_singleton.mp inside]
      rfl
  closing line event inside := by
    change event ∈ (if line.device.isClosed then [] else [.portClosed line.name]) at inside
    split at inside
    · cases inside
    · rw [List.mem_singleton.mp inside]
      rfl

namespace Upload

open Procedure

/-- On the wire a line has its front and a terminator where the device stores a line feed. -/
theorem length_lineBytes (lines : List String) :
    (lineBytes lines).length = Certificate.storedSize ⟨lines⟩ + 21 * lines.length := by
  have front : ("set " ++ Command.uploadSetting ++ " ").utf8ByteSize = 21 := by decide
  have encoded (line : String) : (Command.line line).encode.length = line.utf8ByteSize + 22 := by
    unfold Command.encode
    rw [List.length_append, Utf8.length_encode, String.ofList_toList, Command.text,
      String.utf8ByteSize_append, front, List.length_singleton]
    omega
  induction lines with
  | nil => rfl
  | cons line lines ih =>
    rw [lineBytes, List.flatMap_cons, List.length_append, encoded, List.length_cons,
      Certificate.storedSize_cons]
    change _ + (lineBytes lines).length = _
    omega

variable {σ : Type} [Port σ]

/-- Carry out phases and close the port, however they end. -/
def closing (body : Procedure σ UploadReport) : Procedure σ UploadReport :=
  fun session =>
    let (report, after) := body.run session
    let (closed, last) := close.run after
    match report, closed with
    | .error error, _ => (.error error, last)
    | .ok _, .error error => (.error error, last)
    | .ok report, .ok () => (.ok report, last)

/-- The phases without a look at the size of the certificate. -/
def unwarnedPhases (plan : UploadPlan) (certificate : Certificate) : Procedure σ UploadReport :=
  settle plan >>= fun _ => afterSettling plan certificate

/-- A whole upload without a look at the size of the certificate. -/
def runUnwarned (plan : UploadPlan) (certificate : Certificate) : Procedure σ UploadReport :=
  closing (unwarnedPhases plan certificate)

/-- An upload warns of the size and then carries out the other phases. -/
theorem run_eq_closing (plan : UploadPlan) (certificate : Certificate) :
    (run plan certificate : Procedure σ UploadReport) =
      closing (warnOfSize certificate >>= fun _ => unwarnedPhases plan certificate) := by
  unfold unwarnedPhases
  rw [← phases_settling]
  rfl

/-- Closing adds to the log what the port tells of it, and changes the result only where it
fails. -/
theorem closing_run {body : Procedure σ UploadReport} {session : Session σ}
    {report : Except PortError UploadReport} {after : Session σ}
    (done : body.run session = (report, after)) :
    (closing body).run session =
      (report.bind fun report => (Port.close after.port).1.map fun _ => report,
        { after with
          port := (Port.close after.port).2
          log := after.log ++ Port.closeEvents after.port }) := by
  change closing body session = _
  unfold closing
  simp only [done, run_close]
  cases report with
  | error error => rfl
  | ok report => cases (Port.close after.port).1 <;> rfl

/-- The warning about the size, where it is due. -/
def sizeWarning (certificate : Certificate) : List Event :=
  if Certificate.capacity ≤ certificate.storedSize then [.overCapacity certificate.storedSize]
  else []

/-- Behind the warning an upload takes the course that it takes without a look at the size, and
nothing else that it tells warns of a size. -/
theorem run_unwarned (plan : UploadPlan) (certificate : Certificate) (session : Session σ) :
    let checked := (run plan certificate).run session
    let free := (runUnwarned plan certificate).run session
    checked.1 = free.1 ∧ checked.2.port = free.2.port ∧ checked.2.progress = free.2.progress ∧
      ∃ told, free.2.log = session.log ++ told ∧
        checked.2.log = session.log ++ (sizeWarning certificate ++ told) ∧
        (Port.TellsNoSize σ → ∀ event ∈ told, event.warnsOfSize = false) := by
  intro checked free
  have appends : Appends (fun _ => True)
      (unwarnedPhases plan certificate : Procedure σ UploadReport) :=
    .bind (settle_appends plan) fun _ => afterSettling_appends (fun _ => trivial) plan certificate
  obtain ⟨result, last, told, counted, ordinary, -, runs⟩ := appends session.port
  have warned : (warnOfSize certificate >>= fun _ =>
      unwarnedPhases plan certificate : Procedure σ UploadReport).run session =
      (result, ⟨last, session.log ++ sizeWarning certificate ++ told,
        session.progress ++ counted⟩) := by
    rw [run_bind, warnOfSize, run_tell]
    exact runs _ _
  have checkedRun := closing_run warned
  have freeRun := closing_run (runs session.log session.progress)
  rw [← run_eq_closing] at checkedRun
  have freely : free = _ := freeRun
  have whole : checked = _ := checkedRun
  rw [freely, whole]
  refine ⟨rfl, rfl, rfl, told ++ Port.closeEvents last, ?_, ?_, ?_⟩
  · exact List.append_assoc _ _ _
  · simp only [List.append_assoc]
  · intro silent event inside
    rcases List.mem_append.mp inside with early | late
    · refine Bool.eq_false_iff.mpr fun warns => ?_
      obtain ⟨port, cleared⟩ := ordinary event early warns
      have quiet := silent.clearing port event cleared
      rw [warns] at quiet
      cases quiet
    · exact silent.closing last event late

/-- The events of an upload warn of the size of a certificate where its warning is due. -/
theorem exists_warning_iff {certificate : Certificate} {told : List Event}
    (silent : ∀ event ∈ told, event.warnsOfSize = false) :
    (∃ event ∈ sizeWarning certificate ++ told, event.warnsOfSize = true) ↔
      Certificate.capacity ≤ certificate.storedSize := by
  by_cases large : Certificate.capacity ≤ certificate.storedSize
  · have warned : sizeWarning certificate = [.overCapacity certificate.storedSize] := if_pos large
    rw [warned]
    exact iff_of_true ⟨_, List.mem_cons_self, rfl⟩ large
  · have quiet : sizeWarning certificate = [] := if_neg large
    rw [quiet]
    refine iff_of_false ?_ large
    rintro ⟨event, inside, warns⟩
    rw [silent event inside] at warns
    cases warns

/-- **The stored size is the size of the normal form.** It is the number of bytes of the lines with
one line feed behind each, a text that is read as the same certificate. It is at most one byte more
than the text of the certificate, so where the bytes of that text can be counted no sum on the way
to it is too large, and it is zero where there are no lines. When the device accepts the begin
marker the certificate lines go over the wire in as many bytes and 21 more for each line. An upload
warns of the size where it is at least 3072, and has the result, the commands and the progress of an
upload that does not look at it. -/
theorem stored_size_exact (plan : UploadPlan) (text : String) :
    let certificate := Certificate.ofText text
    let normal := certificate.normalForm
    certificate.storedSize = normal.utf8ByteSize ∧
    Certificate.ofText normal = certificate ∧
    certificate.storedSize ≤ text.utf8ByteSize + 1 ∧
    (∀ largest, text.utf8ByteSize < largest → ∀ counted, counted <+: certificate.lines →
      Certificate.storedSize ⟨counted⟩ ≤ largest) ∧
    (certificate.storedSize = 0 ↔ certificate.isEmpty = true) ∧
    (∀ {σ : Type} [Port σ] (session : Session σ) report,
      ((run plan certificate).run session).1 = .ok report → report.begin = .ready →
      ∃ content, content = certificate.lines.flatMap (fun line => (Command.line line).encode) ∧
        acceptedBytes (operations plan certificate session) = Command.begin.encode ++
          (content ++ (Command.finish.encode ++ Command.status.encode)) ∧
        content.length = certificate.storedSize + 21 * certificate.lineCount) ∧
    (∀ {σ : Type} [Port σ] (session : Session σ),
      let checked := (run plan certificate).run session
      let free := (runUnwarned plan certificate).run session
      checked.1 = free.1 ∧ checked.2.port = free.2.port ∧ checked.2.progress = free.2.progress ∧
      ∃ warning told, free.2.log = session.log ++ told ∧
        checked.2.log = session.log ++ (warning ++ told) ∧
        (3072 ≤ normal.utf8ByteSize → warning = [.overCapacity certificate.storedSize]) ∧
        (normal.utf8ByteSize < 3072 → warning = []) ∧
        (Port.TellsNoSize σ → ((∃ event ∈ warning ++ told, event.warnsOfSize = true) ↔
          3072 ≤ normal.utf8ByteSize))) ∧
    Port.TellsNoSize Device ∧ Port.TellsNoSize SerialLine := by
  intro certificate normal
  have size : certificate.storedSize = normal.utf8ByteSize := Certificate.storedSize_eq _
  have bounded := Certificate.storedSize_ofText_le text
  refine ⟨size, Certificate.ofText_normalForm text, bounded, ?_,
    Certificate.storedSize_eq_zero_iff certificate, ?_, ?_, Device.tellsNoSize,
    SerialLine.tellsNoSize⟩
  · intro largest fits counted first
    have fewer : Certificate.storedSize ⟨counted⟩ ≤ certificate.storedSize :=
      Certificate.storedSize_prefix first
    exact Nat.le_trans fewer (Nat.le_trans bounded fits)
  · intro σ _ session report done accepted
    obtain ⟨finished, -⟩ := run_reports done
    obtain ⟨sent, orderly, -, whole⟩ := phaseOperations_orderly plan certificate session
    rw [finished] at orderly
    have all : sent = wire certificate := by rw [whole report finished, if_pos accepted]
    refine ⟨lineBytes certificate.lines, rfl, ?_, length_lineBytes certificate.lines⟩
    rw [acceptedBytes_operations, orderly.acceptsAll rfl, all, wire_eq]
  · intro σ _ session
    obtain ⟨result, port, progress, told, free, checked, silent⟩ :=
      run_unwarned plan certificate session
    refine ⟨result, port, progress, sizeWarning certificate, told, free, checked, ?_, ?_, ?_⟩
    · intro large
      exact if_pos (size ▸ large)
    · intro small
      exact if_neg (Nat.not_le.mpr (size ▸ small))
    · intro quiet
      rw [exists_warning_iff (silent quiet), size, Certificate.capacity]

/-- Two lines, one of them with a character of two bytes, have a stored size of five bytes, go over
the wire in 47 and are not warned of. -/
theorem stored_size_exact_ready :
    let device : Device := { responder := {
      beginReplies := [(Utf8.encode "ready to receive\n".toList).map .byte] } }
    let session : Session Device := { port := device }
    let certificate := Certificate.ofText "a\r\n\nä"
    (∃ content, content.length = 47 ∧ acceptedBytes (operations {} certificate session) =
      Command.begin.encode ++
        (content ++ (Command.finish.encode ++ Command.status.encode))) ∧
      ∀ event ∈ ((run {} certificate).run session).2.log, event.warnsOfSize = false := by
  intro device session certificate
  obtain ⟨size, -, -, -, -, wired, warns, silent, -⟩ := stored_size_exact {} "a\r\n\nä"
  have stored : certificate.storedSize = 5 := by decide +kernel
  have done : ((run {} certificate).run session).1 = .ok ⟨.ready, 2, false, .notReported⟩ := by
    decide +kernel
  have small : certificate.normalForm.utf8ByteSize < 3072 := by
    rw [← size, stored]
    decide
  constructor
  · obtain ⟨content, -, taken, length⟩ := wired session _ done rfl
    refine ⟨content, ?_, taken⟩
    rw [length, stored]
    decide +kernel
  · obtain ⟨-, -, -, warning, told, -, log, -, -, due⟩ := warns session
    intro event inside
    rw [log] at inside
    refine Bool.eq_false_iff.mpr fun loud => ?_
    exact Nat.not_le.mpr small ((due silent).mp ⟨event, inside, loud⟩)

end Upload

end CertConsole
