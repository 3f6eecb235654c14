import CertConsole.Proofs.Procedure

/-!
# Transcripts

An upload reads more lines than its report tells of. `heard` is the upload with a transcript: next
to the report it gives the lines that were read in each of its phases. It does to the port and tells
what the phases do (`phases_erases`), so its transcript is one of them.
-/
namespace CertConsole

/-- The lines that were read, phase by phase. -/
structure Transcript where
  /-- The lines read in the begin phase. -/
  begin : List String
  /-- The lines read for the certificate lines, one for each line that was sent. -/
  replies : List String := []
  /-- The lines read in the finish phase. -/
  finish : List String := []
  /-- The lines read in the verify phase. -/
  verify : List String := []
  deriving DecidableEq, Repr

namespace Procedure

variable {σ α β : Type} [Port σ]

/-- A poll that also gives the lines that it read. -/
def listen (find : String → Option α) : Nat → Procedure σ (List String × Option α)
  | 0 => return ([], none)
  | attempts + 1 => do
    let line ← readLine
    match answerIn find line with
    | some found => return ([line], some found)
    | none =>
      let (lines, found) ← listen find attempts
      return (line :: lines, found)

/-- Send a command, let time pass and listen for an answer. -/
def exchange (command : Command) (wait : Milliseconds) (find : String → Option α)
    (attempts : Nat) : Procedure σ (List String × Option α) := do
  send command
  pause wait
  listen find attempts

/-- Without the lines, listening is polling. -/
theorem listen_erases (find : String → Option α) (attempts : Nat) :
    (poll find attempts : Procedure σ (Option α)) = Prod.snd <$> listen find attempts := by
  induction attempts with
  | zero => rw [listen, map_pure]; rfl
  | succ attempts ih =>
    rw [poll_succ, listen, map_bind]
    congr 1
    funext line
    cases answerIn find line with
    | some found => rw [map_pure]
    | none =>
      rw [ih, map_bind, map_eq_pure_bind]
      rfl

/-- With the lines, an inquiry is an exchange and what it comes to. -/
theorem inquire_erases (command : Command) (wait : Milliseconds) (find : String → Option α)
    (attempts : Nat) (conclude : Option α → β) (event : β → Event) :
    (inquire command wait find attempts conclude event : Procedure σ β) =
      exchange command wait find attempts >>= fun heard => do
        tell [event (conclude heard.2)]
        return conclude heard.2 := by
  unfold inquire exchange
  rw [listen_erases]
  simp only [bind_assoc, bind_map_left]

end Procedure

namespace Upload

open Procedure

variable {σ : Type} [Port σ]

/-- Streaming that also gives the lines that it read. -/
def streamFromHeard (delay : Milliseconds) (total : Nat) :
    Nat → List String → Procedure σ (Nat × List String)
  | sent, [] => return (sent, [])
  | sent, line :: lines => do
    send (.line line)
    pause delay
    let reply ← readLine
    advance (sent + 1) total
    let (count, replies) ← streamFromHeard delay total (sent + 1) lines
    return (count, reply :: replies)

/-- Streaming a certificate, with the lines that are read. -/
def streamHeard (plan : UploadPlan) (certificate : Certificate) :
    Procedure σ (Nat × List String) := do
  tell [.sendingLines certificate.lineCount]
  streamFromHeard plan.lineDelay certificate.lineCount 0 certificate.lines

/-- What follows an accepted begin marker, with the lines that are read. -/
def transferHeard (plan : UploadPlan) (certificate : Certificate) (beginLines : List String) :
    Procedure σ (UploadReport × Transcript) := do
  let (linesSent, replies) ← streamHeard plan certificate
  let (finishLines, confirmation) ←
    exchange .finish plan.endWait saveConfirmed? plan.endAttempts
  let saved := confirmation.isSome
  tell [if saved then .certificateSaved else .saveUnconfirmed]
  let (verifyLines, field) ← exchange .status plan.statusWait Reply.caField? plan.statusAttempts
  let caStatus := CaStatus.ofField field
  tell [caEvent caStatus]
  let report : UploadReport := ⟨.ready, linesSent, saved, caStatus⟩
  tell [if report.success then .uploadConfirmed else .uploadUnconfirmed]
  return (report, ⟨beginLines, replies, finishLines, verifyLines⟩)

/-- The phases of an upload, with the lines that are read. -/
def heard (plan : UploadPlan) (certificate : Certificate) :
    Procedure σ (UploadReport × Transcript) := do
  warnOfSize certificate
  settle plan
  let (beginLines, answer) ← exchange .begin plan.beginWait beginAnswer? plan.beginAttempts
  let outcome := answer.getD .noResponse
  tell [beginEvent outcome]
  match outcome with
  | .ready => transferHeard plan certificate beginLines
  | outcome => return (.aborted outcome, { begin := beginLines })

/-- Without the lines that it read, streaming that gives them is streaming. -/
theorem streamFrom_erases (delay : Milliseconds) (total sent : Nat) (lines : List String) :
    (streamFrom delay total sent lines : Procedure σ Nat) =
      Prod.fst <$> streamFromHeard delay total sent lines := by
  induction lines generalizing sent with
  | nil => rw [streamFromHeard, map_pure]; rfl
  | cons line lines ih =>
    have others : (streamFrom delay total (sent + 1) lines : Procedure σ Nat) =
        streamFromHeard delay total (sent + 1) lines >>= fun streamed => return streamed.1 := by
      rw [ih, map_eq_pure_bind]
    rw [streamFrom, streamFromHeard, others]
    simp only [map_bind, map_pure]

theorem stream_erases (plan : UploadPlan) (certificate : Certificate) :
    (stream plan certificate : Procedure σ Nat) = Prod.fst <$> streamHeard plan certificate := by
  unfold stream streamHeard
  rw [streamFrom_erases, map_bind]

/-- Without the transcript, what follows an accepted begin marker is the transfer. -/
theorem transfer_erases (plan : UploadPlan) (certificate : Certificate)
    (beginLines : List String) :
    (transfer plan certificate : Procedure σ UploadReport) =
      Prod.fst <$> transferHeard plan certificate beginLines := by
  unfold transfer transferHeard
  rw [stream_erases, finish_eq, verify_eq, inquire_erases, inquire_erases]
  simp only [map_bind, map_pure, bind_assoc, pure_bind, bind_map_left]

/-- **Without the transcript, an upload that is heard is the upload.** -/
theorem phases_erases (plan : UploadPlan) (certificate : Certificate) :
    (phases plan certificate : Procedure σ UploadReport) =
      Prod.fst <$> heard plan certificate := by
  rw [phases_eq]
  unfold opening heard
  rw [begin_eq, inquire_erases]
  simp only [map_bind, bind_assoc, pure_bind]
  congr 1; funext _
  congr 1; funext _
  congr 1; funext found
  congr 1; funext _
  cases found.2.getD .noResponse with
  | ready => exact transfer_erases plan certificate found.1
  | refused line => rfl
  | noResponse => rfl

end Upload

end CertConsole
