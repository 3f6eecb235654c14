import CertConsole.Proofs.Procedure
import CertConsole.Proofs.Wire

/-!
# Line consoles

An upload as it is meant: a console that answers each command with whole lines, a queue of lines
that were not read yet, and an upload that takes lines from its front. Nothing is said of bytes,
buffers, timeouts and waiting times. What the upload does over a port that works comes to this
machine.
-/
namespace CertConsole

/-- A line that arrived and waits to be read: its bytes before the line feed that ends it. -/
structure WaitingLine where
  /-- The bytes before the line feed. -/
  body : List UInt8
  /-- The line feed is not one of them. -/
  plain : Port.lineFeed ∉ body

namespace WaitingLine

/-- The bytes of a line as they arrived. -/
def bytes (line : WaitingLine) : List UInt8 := line.body ++ [Port.lineFeed]

/-- What is read where the line is. -/
def text (line : WaitingLine) : String := Reply.decodeLine line.bytes

/-- A line that another byte stands in front of. -/
def behind (byte : UInt8) (inner : byte ≠ Port.lineFeed) (line : WaitingLine) : WaitingLine where
  body := byte :: line.body
  plain := List.not_mem_cons_of_ne_of_not_mem inner.symm line.plain

/-- The lines that bytes are cut into at the line feeds. -/
def cut : List UInt8 → List WaitingLine
  | [] => []
  | byte :: rest =>
    if last : byte = Port.lineFeed then ⟨[], List.not_mem_nil⟩ :: cut rest
    else match cut rest with
      | [] => []
      | line :: lines => line.behind byte last :: lines

/-- Bytes that are nothing but lines: there are none, or the last one is a line feed. -/
def Whole (bytes : List UInt8) : Prop := bytes = [] ∨ bytes.getLast? = some Port.lineFeed

/-- Lines are lines behind their first byte, too. -/
theorem Whole.tail {byte : UInt8} {rest : List UInt8} (whole : Whole (byte :: rest)) :
    Whole rest := by
  cases rest with
  | nil => exact .inl rfl
  | cons next rest =>
    rcases whole with empty | last
    · cases empty
    · rw [List.getLast?_cons_cons] at last
      exact .inr last

/-- Lines are cut without loss. -/
theorem cut_bytes {arrived : List UInt8} (whole : Whole arrived) :
    (cut arrived).flatMap bytes = arrived := by
  induction arrived with
  | nil => rfl
  | cons byte rest ih =>
    have later := ih whole.tail
    by_cases last : byte = Port.lineFeed
    · rw [cut, dif_pos last, List.flatMap_cons, later, last]
      rfl
    · rw [cut, dif_neg last]
      cases lines : cut rest with
      | nil =>
        -- Nothing follows the byte, so it is the last one and no line feed.
        rw [lines] at later
        rw [← later] at whole
        rcases whole with empty | feed
        · cases empty
        · exact absurd (Option.some.inj feed) last
      | cons line lines' =>
        rw [lines, List.flatMap_cons] at later
        rw [List.flatMap_cons, ← later]
        rfl

end WaitingLine

/-- The byte of an item that is one. -/
def Item.byte? : Item → Option UInt8
  | .byte value => some value
  | .signal _ => none

/-- A console of lines. -/
structure LineConsole where
  /-- The far end. -/
  responder : Responder
  /-- The lines that were not read yet. -/
  unread : List WaitingLine := []
  /-- The certificate lines reported as sent. -/
  progress : List (Nat × Nat) := []

namespace LineConsole

variable {α : Type}

/-- The far end takes a command and answers it with lines. -/
def ask (command : Command) : StateM LineConsole Unit := modify fun console =>
  let answer := console.responder.answer (.ofBytes command.bytes)
  { console with
    responder := { console.responder with
      commands := console.responder.commands ++ [command.bytes] }
    unread := console.unread ++ WaitingLine.cut (answer.filterMap Item.byte?) }

/-- The first unread line, or the empty line where there is none. -/
def pop : StateM LineConsole String := modifyGet fun console =>
  match console.unread with
  | [] => ("", console)
  | line :: rest => (line.text, { console with unread := rest })

/-- Where no line is unread the empty line is popped. -/
theorem run_pop_nil {console : LineConsole} (unread : console.unread = []) :
    pop.run console = ("", console) := by
  change (match console.unread with
    | [] => ("", console)
    | line :: rest => (line.text, { console with unread := rest })) = _
  rw [unread]

/-- The first unread line is popped. -/
theorem run_pop_cons {console : LineConsole} {line : WaitingLine} {rest : List WaitingLine}
    (unread : console.unread = line :: rest) :
    pop.run console = (line.text, { console with unread := rest }) := by
  change (match console.unread with
    | [] => ("", console)
    | line :: rest => (line.text, { console with unread := rest })) = _
  rw [unread]

/-- Pop lines until one of them that is not empty has what is looked for, or the attempts are used
up. -/
def seek (find : String → Option α) : Nat → StateM LineConsole (Option α)
  | 0 => return none
  | attempts + 1 => do
    let line ← pop
    match if line = "" then none else find line with
    | some found => return some found
    | none => seek find attempts

/-- Seeking with attempts left pops a line and ends with its answer, or goes on without one. -/
theorem seek_succ (find : String → Option α) (attempts : Nat) :
    seek find (attempts + 1) =
      pop >>= fun line =>
        match Procedure.answerIn find line with
        | some found => pure (some found)
        | none => seek find attempts := rfl

/-- Ask for certificate lines to be taken one after the other, pop one line for each, count them
from a number on, and return the count. -/
def streamFrom (total : Nat) : Nat → List String → StateM LineConsole Nat
  | sent, [] => return sent
  | sent, line :: lines => do
    ask (.line line)
    let _ ← pop
    modify fun console => { console with progress := console.progress ++ [(sent + 1, total)] }
    streamFrom total (sent + 1) lines

/-- Ask and seek an answer, and return what it comes to. -/
def inquire {β : Type} (command : Command) (find : String → Option α) (attempts : Nat)
    (conclude : Option α → β) : StateM LineConsole β := do
  ask command
  return conclude (← seek find attempts)

/-- Send the begin marker and seek its answer. -/
def begin (plan : UploadPlan) : StateM LineConsole BeginOutcome :=
  inquire .begin Upload.beginAnswer? plan.beginAttempts (·.getD .noResponse)

/-- Send the end marker and seek the save confirmation. -/
def finish (plan : UploadPlan) : StateM LineConsole Bool :=
  inquire .finish Upload.saveConfirmed? plan.endAttempts Option.isSome

/-- Ask for the status and seek the CA field. -/
def verify (plan : UploadPlan) : StateM LineConsole CaStatus :=
  inquire .status Reply.caField? plan.statusAttempts CaStatus.ofField

/-- What follows an accepted begin marker. -/
def transfer (plan : UploadPlan) (certificate : Certificate) : StateM LineConsole UploadReport := do
  let linesSent ← streamFrom certificate.lineCount 0 certificate.lines
  let saved ← finish plan
  let caStatus ← verify plan
  return ⟨.ready, linesSent, saved, caStatus⟩

/-- A whole upload to a console of lines that are all read. -/
def upload (plan : UploadPlan) (certificate : Certificate) : StateM LineConsole UploadReport := do
  match ← begin plan with
  | .ready => transfer plan certificate
  | outcome => return .aborted outcome

end LineConsole

end CertConsole
