import CertConsole.Proofs.Exchange
import Mathlib.Control.Monad.Basic

/-!
# Whose answers decide a report

An upload discards input once, before its first command. So what it reads later answers its own
commands, but in the order in which the answers came, and what an earlier command left unread is
read for the answer to a later one. `traced` is the upload with the origin of the lines that decide
its report: such a line is made of answers to commands of this upload, none later than the one that
it is read for, and it answers that one exactly when all that was unread before has been used up
(`confirmations_attributed`).
-/
namespace CertConsole

open Text

/-- The origin is a command whose number is within bounds. -/
def Origin.Within (first last : Nat) (origin : Origin) : Prop :=
  ∃ command, origin = .answer command ∧ first ≤ command ∧ command < last

theorem Origin.Within.mono {first last later : Nat} {origin : Origin}
    (within : origin.Within first last) (grows : last ≤ later) : origin.Within first later := by
  obtain ⟨command, told, lower, upper⟩ := within
  exact ⟨command, told, lower, Nat.lt_of_lt_of_le upper grows⟩

/-- All that waits answers commands from a number on. -/
structure Traced.Recent (first : Nat) (traced : Traced) : Prop where
  /-- At least so many commands were received. -/
  reached : first ≤ traced.device.responder.commands.length
  /-- What waits answers the others. -/
  waiting : ∀ arrival ∈ traced.waiting,
    arrival.origin.Within first traced.device.responder.commands.length

/-- The commands were received to their ends, and all that waits answers those from a number on. -/
structure Traced.Settled (first : Nat) (traced : Traced) : Prop extends Recent first traced where
  /-- No command is unfinished. -/
  whole : traced.device.responder.pending = []

namespace Traced

variable {first : Nat} {before after : Traced}

/-- What is left of recent input is recent. -/
theorem Gave.settled {taken : List Arrival} (gave : Gave taken before after)
    (settled : Settled first before) : Settled first after where
  reached := by
    rw [gave.responder]
    exact settled.reached
  waiting arrival inside := by
    rw [gave.responder]
    refine settled.waiting arrival ?_
    rw [gave.waiting]
    exact List.mem_append_right taken inside
  whole := gave.responder ▸ settled.whole

/-- The answers to a command are recent where what waited was. -/
theorem Took.settled {command : Command} (took : Took command.encode before after)
    (recent : Recent first before) : Settled first after := by
  obtain ⟨grows, answers⟩ :=
    before.device.responder.arrivals_within command.encode
  refine ⟨⟨?_, fun arrival inside => ?_⟩, ?_⟩
  · rw [took.responder]
    exact Nat.le_trans recent.reached grows
  · rw [took.waiting] at inside
    rw [took.responder]
    rcases List.mem_append.mp inside with old | new
    · exact (recent.waiting arrival old).mono grows
    · obtain ⟨command, told, lower, upper⟩ := answers arrival new
      exact ⟨command, told, Nat.le_trans recent.reached lower, upper⟩
  · rw [took.responder]
    exact before.device.responder.receive_ended _

end Traced

namespace Procedure

/-- An inquiry leaves recent input where it finds some, unless the device is closed. -/
theorem inquire_settled {α β : Type} {command : Command} {wait : Milliseconds}
    {find : String → Option α} {attempts : Nat} {conclude : Option α → β} {event : β → Event}
    {value : β} {first : Nat} {session after : Session Traced}
    (done : (inquire command wait find attempts conclude event).run session = (.ok value, after))
    (recent : session.port.device.isClosed = false → Traced.Recent first session.port) :
    Traced.Settled first after.port := by
  unfold inquire at done
  obtain ⟨⟨⟩, asked, sent, afterSend⟩ := run_bind_ok.mp done
  obtain ⟨⟨⟩, waited, passed, afterPause⟩ := run_bind_ok.mp afterSend
  obtain ⟨answer, polled, read, afterPoll⟩ := run_bind_ok.mp afterPause
  obtain ⟨⟨⟩, told, noted, last⟩ := run_bind_ok.mp afterPoll
  obtain ⟨opened, took⟩ := send_ok sent
  have settled := took.settled (recent opened)
  cases passed
  obtain ⟨taken, gave⟩ := poll_gave read
  cases noted
  cases last
  exact gave.settled settled

end Procedure

namespace Upload

open Procedure

/-- Settling leaves the far end alone, and nothing waits in a device that is open. -/
theorem settle_ok {plan : UploadPlan} {session after : Session Traced}
    (done : (settle plan).run session = (.ok (), after)) :
    after.port.device.responder = session.port.device.responder ∧
      (after.port.device.isClosed = false → after.port.waiting = []) := by
  rw [run_settle, run_clearInput] at done
  obtain ⟨cleared, rfl⟩ := Prod.mk.inj done
  exact Traced.clear_ok cleared

/-- Where the device answered the begin marker, all that waits answers commands of the upload. -/
theorem opening_settled {plan : UploadPlan} {certificate : Certificate} {outcome : BeginOutcome}
    {session after : Session Traced}
    (done : (opening plan certificate).run session = (.ok outcome, after)) :
    Traced.Settled session.port.device.responder.commands.length after.port := by
  unfold opening at done
  obtain ⟨⟨⟩, warned, told, afterWarning⟩ := run_bind_ok.mp done
  obtain ⟨⟨⟩, cleared, settled, began⟩ := run_bind_ok.mp afterWarning
  obtain ⟨same, empty⟩ := settle_ok settled
  have before : warned.port = session.port := by
    cases told
    rfl
  rw [begin_eq] at began
  -- The begin marker reached an open device, and in an open device nothing waited before it.
  refine inquire_settled began fun opened => ⟨?_, ?_⟩
  · exact Nat.le_of_eq (by rw [same, before])
  · rw [empty opened]
    exact fun arrival inside => absurd inside List.not_mem_nil

/-- While lines are sent all that waits keeps answering commands of the upload. -/
theorem streamFrom_settled {delay : Milliseconds} {total sent count first : Nat}
    {lines : List String} {session after : Session Traced}
    (settled : Traced.Settled first session.port)
    (done : (streamFrom delay total sent lines).run session = (.ok count, after)) :
    Traced.Settled first after.port := by
  induction lines generalizing sent session with
  | nil =>
    cases done
    exact settled
  | cons line lines ih =>
    rw [streamFrom] at done
    obtain ⟨⟨⟩, asked, told, afterSend⟩ := run_bind_ok.mp done
    obtain ⟨⟨⟩, waited, passed, afterPause⟩ := run_bind_ok.mp afterSend
    obtain ⟨reply, replied, read, afterRead⟩ := run_bind_ok.mp afterPause
    obtain ⟨⟨⟩, advanced, counted, rest⟩ := run_bind_ok.mp afterRead
    have received := (send_ok told).2.settled settled.toRecent
    cases passed
    obtain ⟨taken, gave, -⟩ := readLine_gave read
    cases counted
    refine ih ?_ rest
    exact gave.settled received

theorem stream_settled {plan : UploadPlan} {certificate : Certificate} {first sent : Nat}
    {session after : Session Traced} (settled : Traced.Settled first session.port)
    (done : (stream plan certificate).run session = (.ok sent, after)) :
    Traced.Settled first after.port := by
  unfold stream at done
  obtain ⟨⟨⟩, begun, told, streamed⟩ := run_bind_ok.mp done
  cases told
  refine streamFrom_settled ?_ streamed
  exact settled

end Upload

namespace Exchange

variable {α : Type}

/-- A command that was sent to a device in a course of commands, and its exchange. -/
structure Follows (first : Nat) (command : Command) (exchange : Exchange α) (after : Traced) :
    Prop where
  /-- What was unread before answers the commands before. -/
  unread : ∀ arrival ∈ exchange.unread, arrival.origin.Within first exchange.number
  /-- At least so many commands were before. -/
  reached : first ≤ exchange.number
  /-- The command was received. -/
  received : after.device.responder.commands =
    exchange.before.device.responder.commands ++ [command.bytes]
  /-- What was unread and then the answer to the command is what the lines are made of, one after
  the other, and what waits behind them. -/
  order : exchange.unread ++ exchange.reply command =
    exchange.readings.flatMap Reading.arrivals ++ after.waiting
  /-- Each line is the text of what was taken for it. -/
  genuine : ∀ reading ∈ exchange.readings, reading.Genuine

/-- The line that decided an exchange, and what it answers. -/
structure Decided (first : Nat) (exchange : Exchange α) (earlier : List Reading)
    (reading : Reading) : Prop where
  /-- It is the last line that was read. -/
  last : exchange.readings = earlier ++ [reading]
  /-- It is the text of what was taken for it. -/
  genuine : reading.Genuine
  /-- It is made of something. -/
  nonempty : reading.arrivals ≠ []
  /-- It is made of answers to commands of the upload, none later than that of the exchange. -/
  within : ∀ arrival ∈ reading.arrivals,
    arrival.origin.Within first (exchange.number + 1)
  /-- It is made of the answer to that one exactly when all that was unread before it had been used
  up by the lines before. -/
  own : (∀ arrival ∈ reading.arrivals, arrival.origin = .answer exchange.number) ↔
    exchange.unread <+: earlier.flatMap Reading.arrivals

/-- An exchange with a command follows what was before. -/
theorem follows_of_overheard {command : Command} (plain : Command.terminator ∉ command.bytes)
    {find : String → Option α} {attempts first : Nat} {exchange : Exchange α}
    {asked after : Traced} (settled : Traced.Settled first exchange.before)
    (took : Traced.Took command.encode exchange.before asked)
    (heard : Procedure.Overheard find attempts asked after exchange.readings exchange.answer) :
    exchange.Follows first command after where
  unread := settled.waiting
  reached := settled.reached
  received := by
    rw [heard.gave.responder, took.responder]
    exact congrArg (·.2.commands) (Responder.receive_command plain _ settled.whole)
  order := by
    rw [← heard.gave.waiting, took.waiting, reply, number]
    exact congrArg (_ ++ ·) (Responder.arrivals_command plain _ settled.whole).symm
  genuine := heard.genuine

/-- What is taken from the front of some old items and then new ones is new exactly when the old
ones are used up before. -/
theorem own_iff {number : Nat} {old new earlier taken rest : List Arrival}
    (order : old ++ new = earlier ++ taken ++ rest) (nonempty : taken ≠ [])
    (older : ∀ arrival ∈ old, arrival.origin ≠ .answer number)
    (newer : ∀ arrival ∈ new, arrival.origin = .answer number) :
    (∀ arrival ∈ taken, arrival.origin = .answer number) ↔ old <+: earlier := by
  constructor
  · intro own
    rw [List.append_assoc] at order
    have front : old <+: earlier ++ (taken ++ rest) := ⟨new, order⟩
    rcases List.prefix_or_prefix_of_prefix front (List.prefix_append earlier _) with used | short
    · exact used
    · obtain ⟨extra, rfl⟩ := short
      cases extra with
      | nil => exact ⟨[], by rw [List.append_nil, List.append_nil]⟩
      | cons arrival extra =>
        -- An old item is left, so the first one that is taken is old.
        rw [List.append_assoc, List.append_cancel_left_eq] at order
        obtain ⟨head, tail, rfl⟩ := List.exists_cons_of_ne_nil nonempty
        have same : arrival = head := by
          rw [List.cons_append, List.cons_append] at order
          exact (List.cons.inj order).1
        exact absurd (own head List.mem_cons_self) (same ▸ older arrival (by simp))
  · rintro ⟨used, rfl⟩ arrival inside
    rw [List.append_assoc, List.append_assoc, List.append_cancel_left_eq] at order
    apply newer
    rw [order]
    simp [inside]

/-- The last line that was read decides an exchange if it is not empty. -/
theorem Follows.decided {first : Nat} {command : Command} {exchange : Exchange α} {after : Traced}
    (follows : exchange.Follows first command after) {earlier : List Reading} {reading : Reading}
    (last : exchange.readings = earlier ++ [reading]) (spoken : reading.text ≠ "") :
    exchange.Decided first earlier reading := by
  have genuine : reading.Genuine := follows.genuine reading (by simp [last])
  have nonempty : reading.arrivals ≠ [] := by
    intro empty
    rw [Reading.Genuine, empty] at genuine
    exact spoken genuine
  have order := follows.order
  rw [last, List.flatMap_append, List.flatMap_singleton] at order
  have answers (arrival : Arrival) (inside : arrival ∈ exchange.reply command) :
      arrival.origin = .answer exchange.number := by
    obtain ⟨item, -, rfl⟩ := List.mem_map.mp inside
    rfl
  refine ⟨last, genuine, nonempty, fun arrival inside => ?_, own_iff order nonempty ?_ answers⟩
  · have among : arrival ∈ exchange.unread ++ exchange.reply command := by
      rw [order]
      simp [inside]
    rcases List.mem_append.mp among with old | new
    · exact (follows.unread arrival old).mono (Nat.le_succ _)
    · exact ⟨exchange.number, answers arrival new, follows.reached, Nat.lt_succ_self _⟩
  · intro arrival inside told
    obtain ⟨command, origin, -, upper⟩ := follows.unread arrival inside
    rw [told] at origin
    cases origin
    exact Nat.lt_irrefl _ upper

/-- The line that decided an exchange is among its lines. -/
theorem Decided.text_mem {first : Nat} {exchange : Exchange α} {earlier : List Reading}
    {reading : Reading} (decided : exchange.Decided first earlier reading) :
    reading.text ∈ exchange.readings.map Reading.text := by
  rw [decided.last]
  simp

end Exchange

namespace Procedure

/-- A line with an answer is not empty. -/
theorem answerIn_some {α : Type} {find : String → Option α} {line : String} {found : α}
    (answered : answerIn find line = some found) : line ≠ "" ∧ find line = some found := by
  unfold answerIn at answered
  by_cases empty : line = ""
  · rw [if_pos empty] at answered
    cases answered
  · rw [if_neg empty] at answered
    exact ⟨empty, answered⟩

/-- Where all that waits answers commands of the upload, an exchange adds one command, its lines are
listened to, the last one decides it where there is an answer, and what waits keeps to the
upload. -/
theorem exchangeTraced_follows {α : Type} {command : Command} {wait : Milliseconds}
    {find : String → Option α} {attempts : Nat} {exchange : Exchange α} {first : Nat}
    {session after : Session Traced} (plain : Command.terminator ∉ command.bytes)
    (settled : Traced.Settled first session.port)
    (done : (exchangeTraced command wait find attempts).run session = (.ok exchange, after)) :
    exchange.before = session.port ∧ Traced.Settled first after.port ∧
      exchange.Follows first command after.port ∧
      Listened find attempts (exchange.readings.map Reading.text) exchange.answer ∧
      ∀ found, exchange.answer = some found → ∃ earlier reading,
        answerIn find reading.text = some found ∧ exchange.Decided first earlier reading := by
  obtain ⟨before, asked, took, heard⟩ := exchangeTraced_ok done
  rw [← before] at settled took
  have follows := Exchange.follows_of_overheard plain settled took heard
  refine ⟨before, heard.gave.settled (took.settled settled.toRecent), follows, heard.listened, ?_⟩
  intro found told
  obtain ⟨texts, text, last, answered, -⟩ := heard.listened.answered found told
  obtain ⟨earlier, final, whole, -, same⟩ := List.map_eq_append_iff.mp last
  obtain ⟨reading, rfl, rfl⟩ := List.map_eq_singleton_iff.mp same
  exact ⟨earlier, reading, answered, follows.decided whole (answerIn_some answered).1⟩

end Procedure

/-- The exchanges that decide the report of an upload. -/
structure Evidence where
  /-- The one about the end marker. -/
  finish : Exchange Unit
  /-- The one about the status. -/
  verify : Exchange Bool

namespace Upload

open Procedure

/-- What follows an accepted begin marker, with the exchanges that decide the report. -/
def transferTraced (plan : UploadPlan) (certificate : Certificate) :
    Procedure Traced (UploadReport × Evidence) := do
  let linesSent ← stream plan certificate
  let finish ← exchangeTraced .finish plan.endWait saveConfirmed? plan.endAttempts
  let saved := finish.answer.isSome
  tell [if saved then .certificateSaved else .saveUnconfirmed]
  let verify ← exchangeTraced .status plan.statusWait Reply.caField? plan.statusAttempts
  let caStatus := CaStatus.ofField verify.answer
  tell [caEvent caStatus]
  let report : UploadReport := ⟨.ready, linesSent, saved, caStatus⟩
  tell [if report.success then .uploadConfirmed else .uploadUnconfirmed]
  return (report, ⟨finish, verify⟩)

/-- The phases of an upload, with the exchanges that decide its report if it has any. -/
def traced (plan : UploadPlan) (certificate : Certificate) :
    Procedure Traced (UploadReport × Option Evidence) := do
  match ← opening plan certificate with
  | .ready =>
    let (report, evidence) ← transferTraced plan certificate
    return (report, some evidence)
  | outcome => return (.aborted outcome, none)

/-- Without the evidence, what follows an accepted begin marker is the transfer. -/
theorem transferTraced_erases (plan : UploadPlan) (certificate : Certificate) :
    (transfer plan certificate : Procedure Traced UploadReport) =
      Prod.fst <$> transferTraced plan certificate := by
  unfold transfer transferTraced
  rw [finish_eq, verify_eq, inquire_traced, inquire_traced]
  simp only [map_bind, map_pure, bind_assoc, pure_bind]

/-- **Without the evidence, an upload that is traced is the upload.** -/
theorem traced_erases (plan : UploadPlan) (certificate : Certificate) :
    (phases plan certificate : Procedure Traced UploadReport) =
      Prod.fst <$> traced plan certificate := by
  rw [phases_eq]
  unfold traced
  rw [map_bind]
  congr 1; funext outcome
  cases outcome with
  | ready =>
    rw [afterBegin, transferTraced_erases, map_bind, map_eq_pure_bind]
    rfl
  | refused line => rfl
  | noResponse => rfl

/-- What the two exchanges of an upload say about its report. -/
structure Attributed (first : Nat) (report : UploadReport) (evidence : Evidence) (after : Traced) :
    Prop where
  /-- The end marker follows the commands of the upload, and the status query comes after it. -/
  finish : evidence.finish.Follows first .finish evidence.verify.before
  /-- Nothing comes after the status query. -/
  verify : evidence.verify.Follows first .status after
  /-- A save is reported exactly when a line that confirms it decided the first exchange. -/
  saved : report.saved = true ↔ ∃ earlier reading, Reply.confirmsSave reading.text = true ∧
    evidence.finish.Decided first earlier reading
  /-- A CA status is reported exactly when a line with a CA field, which tells it, decided the
  second one. -/
  caStatus : report.caStatus ≠ .notReported ↔ ∃ earlier reading,
    mentions reading.text "CA:" = true ∧
    (report.caStatus = .present ↔ mentions reading.text "CA: YES" = true) ∧
    evidence.verify.Decided first earlier reading

/-- A line with the sign of a save confirms it. -/
theorem confirmsSave_of_answerIn {line : String} {found : Unit}
    (answered : answerIn saveConfirmed? line = some found) : Reply.confirmsSave line = true := by
  have sign := (answerIn_some answered).2
  unfold saveConfirmed? at sign
  by_cases confirms : Reply.confirmsSave line = true
  · exact confirms
  · rw [if_neg confirms] at sign
    cases sign

/-- Lines of which one has a CA field tell a CA status. -/
theorem caTold_reported {lines : List String} {line : String} (inside : line ∈ lines)
    (named : mentions line "CA:" = true) : caTold lines ≠ .notReported := by
  unfold caTold
  cases first : lines.find? (mentions · "CA:") with
  | none => exact absurd named (List.find?_eq_none.mp first line inside)
  | some line => by_cases yes : mentions line "CA: YES" = true <;> simp [yes]

/-- A line with the value of a CA field has one with this value. -/
theorem mentions_of_answerIn {line : String} {value : Bool}
    (answered : answerIn Reply.caField? line = some value) :
    mentions line "CA:" = true ∧ mentions line "CA: YES" = value := by
  have field := (answerIn_some answered).2
  unfold Reply.caField? at field
  by_cases named : mentions line "CA:" = true
  · rw [if_pos named] at field
    exact ⟨named, Option.some.inj field⟩
  · rw [if_neg named] at field
    cases field

/-- What follows an accepted begin marker is decided by two exchanges that follow each other. -/
theorem transferTraced_ok {plan : UploadPlan} {certificate : Certificate} {report : UploadReport}
    {evidence : Evidence} {first : Nat} {session after : Session Traced}
    (settled : Traced.Settled first session.port)
    (done : (transferTraced plan certificate).run session = (.ok (report, evidence), after)) :
    Attributed first report evidence after.port := by
  unfold transferTraced at done
  obtain ⟨linesSent, streamed, sent, afterStream⟩ := run_bind_ok.mp done
  obtain ⟨finish, finished, asked, afterFinish⟩ := run_bind_ok.mp afterStream
  obtain ⟨⟨⟩, noted, told, afterTold⟩ := run_bind_ok.mp afterFinish
  obtain ⟨verify, verified, queried, afterVerify⟩ := run_bind_ok.mp afterTold
  have endPlain : Command.terminator ∉ Command.finish.bytes := by decide
  have queryPlain : Command.terminator ∉ Command.status.bytes := by decide
  have behind := stream_settled settled sent
  obtain ⟨-, between, ended, endHeard, confirmed⟩ := exchangeTraced_follows endPlain behind asked
  -- Between the exchanges something is told and nothing is done.
  have same : noted.port = finished.port := by
    cases told
    rfl
  rw [← same] at between ended
  obtain ⟨before, -, queries, queryHeard, reported⟩ :=
    exchangeTraced_follows queryPlain between queried
  cases afterVerify
  refine ⟨before ▸ ended, queries, ⟨fun saved => ?_, ?_⟩, ⟨fun known => ?_, ?_⟩⟩
  · obtain ⟨found, answer⟩ := Option.isSome_iff_exists.mp saved
    obtain ⟨earlier, reading, answered, decided⟩ := confirmed found answer
    exact ⟨earlier, reading, confirmsSave_of_answerIn answered, decided⟩
  · rintro ⟨earlier, reading, confirms, decided⟩
    exact (saved_iff endHeard).mpr ⟨reading.text, decided.text_mem, confirms⟩
  · cases answer : verify.answer with
    | none =>
      rw [answer] at known
      exact absurd rfl known
    | some value =>
      obtain ⟨earlier, reading, answered, decided⟩ := reported value answer
      obtain ⟨named, told⟩ := mentions_of_answerIn answered
      refine ⟨earlier, reading, named, ?_, decided⟩
      rw [told]
      cases value <;> simp [CaStatus.ofField]
  · rintro ⟨earlier, reading, named, -, decided⟩
    rw [caStatus_eq queryHeard]
    exact caTold_reported decided.text_mem named

/-- A traced upload has the outcome of the upload. -/
theorem traced_outcome (plan : UploadPlan) (certificate : Certificate) (session : Session Device) :
    ((traced plan certificate).run session.traced).1.map Prod.fst =
        ((phases plan certificate).run session).1 ∧
      ((traced plan certificate).run session.traced).2.port.device =
        ((phases plan certificate).run session).2.port := by
  have alike : Session.Alike Traced.Traces session.traced session := ⟨rfl, rfl, rfl⟩
  obtain ⟨same, after⟩ := phases_simulates Traced.traces_simulation plan certificate _ _ alike
  rw [traced_erases, run_map] at same after
  exact ⟨same, after.port⟩

/-- **Confirmations answer commands of the upload, and the one that asked for them when nothing
older is left.** A report of an upload that the device let begin comes with the exchanges that
decided it. A save is reported exactly when a line that confirms it decided the first one, and a CA
status when a line with a CA field decided the second one. Each of these lines is made of bytes with
which the device answered commands of this upload, none later than the end marker and the status
query, respectively; and it is made of the answer to that command alone exactly when the lines read
after the command and before it had used up all that was still unread when the command was sent. -/
theorem confirmations_attributed (plan : UploadPlan) (certificate : Certificate)
    (session : Session Device) (report : UploadReport)
    (done : ((run plan certificate).run session).1 = .ok report) (ready : report.begin = .ready) :
    ∃ evidence after,
      (traced plan certificate).run session.traced = (.ok (report, some evidence), after) ∧
      after.port.device = ((phases plan certificate).run session).2.port ∧
      Attributed session.port.responder.commands.length report evidence after.port := by
  obtain ⟨same, device⟩ := traced_outcome plan certificate session
  rw [(run_reports done).1] at same
  rcases outcome : (traced plan certificate).run session.traced with
    ⟨error | ⟨found, evidence⟩, after⟩
  · rw [outcome] at same
    cases same
  · rw [outcome] at same device
    cases same
    have whole := outcome
    unfold traced at whole
    obtain ⟨answer, opened, began, rest⟩ := run_bind_ok.mp whole
    cases answer with
    | refused line =>
      cases rest
      cases ready
    | noResponse =>
      cases rest
      cases ready
    | ready =>
      obtain ⟨⟨_, decided⟩, last, transferred, told⟩ := run_bind_ok.mp rest
      cases told
      have settled := opening_settled began
      exact ⟨decided, _, rfl, device, transferTraced_ok settled transferred⟩

/-- A device that answers each command when it receives it confirms with the answers to the commands
that ask for it. -/
theorem confirmations_attributed_prompt :
    let answers (text : String) : List (List Item) := [(Utf8.encode text.toList).map .byte]
    let device : Device := { responder := {
      beginReplies := answers "ready to receive\n"
      lineReplies := answers "ok\n"
      finishReplies := answers "certificate saved\n"
      statusReplies := answers "CA: YES\n" } }
    let session : Session Device := { port := device }
    let report : UploadReport := ⟨.ready, 1, true, .present⟩
    ((run {} (.ofText "a")).run session).1 = .ok report ∧ report.begin = .ready ∧
      ∃ evidence after,
        (traced {} (.ofText "a")).run session.traced = (.ok (report, some evidence), after) ∧
        after.port.device = ((phases {} (.ofText "a")).run session).2.port ∧
        Attributed 0 report evidence after.port := by
  intro answers device session report
  have done : ((run {} (.ofText "a")).run session).1 = .ok report := by decide +kernel
  exact ⟨done, rfl, confirmations_attributed {} (.ofText "a") session report done rfl⟩

/-- **An answer to the begin marker can confirm an upload.** The device says all that an upload
wants to hear at once and nothing else later. The save and the CA certificate are reported for lines
of which no byte answers the end marker or the status query. -/
theorem begin_answer_confirms :
    let answer := (Utf8.encode "ready to receive\nok\ncertificate saved\nCA: YES\n".toList).map .byte
    let session : Session Device := { port := { responder := { beginReplies := [answer] } } }
    let report : UploadReport := ⟨.ready, 1, true, .present⟩
    ((run {} (.ofText "a")).run session).1 = .ok report ∧
      ∃ evidence after saved told,
        (traced {} (.ofText "a")).run session.traced = (.ok (report, some evidence), after) ∧
        evidence.finish.readings = [saved] ∧ saved.text = "certificate saved" ∧
        evidence.finish.number = 2 ∧
        (∀ arrival ∈ saved.arrivals, arrival.origin = .answer 0) ∧ saved.arrivals ≠ [] ∧
        evidence.verify.readings = [told] ∧ told.text = "CA: YES" ∧
        evidence.verify.number = 3 ∧
        (∀ arrival ∈ told.arrivals, arrival.origin = .answer 0) ∧ told.arrivals ≠ [] := by
  intro answer session report
  have done : ((run {} (.ofText "a")).run session).1 = .ok report := by decide +kernel
  have seen : ((traced {} (.ofText "a")).run session.traced).1.map (fun found =>
      (found.1, found.2.map fun evidence =>
        ((evidence.finish.number, evidence.finish.readings),
          (evidence.verify.number, evidence.verify.readings)))) =
      .ok (report, some (
        (2, [⟨"certificate saved",
          (Utf8.encode "certificate saved\n".toList).map fun byte => ⟨.answer 0, .byte byte⟩⟩]),
        (3, [⟨"CA: YES",
          (Utf8.encode "CA: YES\n".toList).map fun byte => ⟨.answer 0, .byte byte⟩⟩]))) := by
    decide +kernel
  refine ⟨done, ?_⟩
  rcases outcome : (traced {} (.ofText "a")).run session.traced with
    ⟨error | ⟨found, none | evidence⟩, after⟩
  · rw [outcome] at seen
    cases seen
  · rw [outcome] at seen
    cases (Prod.mk.inj (Except.ok.inj seen)).2
  · rw [outcome] at seen
    obtain ⟨same, exchanges⟩ := Prod.mk.inj (Except.ok.inj seen)
    obtain ⟨ended, queried⟩ := Prod.mk.inj (Option.some.inj exchanges)
    obtain ⟨endNumber, endReadings⟩ := Prod.mk.inj ended
    obtain ⟨queryNumber, queryReadings⟩ := Prod.mk.inj queried
    have stale (bytes : List UInt8) : ∀ arrival ∈ bytes.map fun byte =>
        (⟨.answer 0, .byte byte⟩ : Arrival), arrival.origin = .answer 0 := by
      intro arrival inside
      obtain ⟨byte, -, rfl⟩ := List.mem_map.mp inside
      rfl
    have reported : found = report := same
    rw [reported]
    exact ⟨evidence, after, _, _, rfl, endReadings, rfl, endNumber, stale _, by decide +kernel,
      queryReadings, rfl, queryNumber, stale _, by decide +kernel⟩

end Upload

end CertConsole
