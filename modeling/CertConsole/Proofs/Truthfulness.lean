import CertConsole.Port.Device
import CertConsole.Proofs.Closing
import CertConsole.Proofs.ReplyLine
import CertConsole.Proofs.Transcript

/-!
# The truth of reports

What a report says is what the lines say that were read for it. The transcript of an upload tells
which lines these are, and every part of a report is a fact about them (`Truthful`). The law of one
poll (`Listened`) gives the part that each phase adds; a report of an upload that did not begin has
nothing of the phases that were not carried out.
-/
namespace CertConsole

open Text

namespace Procedure

variable {σ α β : Type}

/-- Whatever value a procedure has, it has the property. -/
def Gives (holds : α → Prop) (procedure : Procedure σ α) : Prop :=
  ∀ session value, (procedure.run session).1 = .ok value → holds value

namespace Gives

theorem pure {holds : α → Prop} {value : α} (held : holds value) :
    Gives holds (Pure.pure value : Procedure σ α) := by
  intro session found done
  cases done
  exact held

theorem anything (procedure : Procedure σ α) : Gives (fun _ => True) procedure :=
  fun _ _ _ => trivial

/-- What the first step gives is there for the second one. -/
theorem bind {first : α → Prop} {holds : β → Prop} {procedure : Procedure σ α}
    {next : α → Procedure σ β} (head : Gives first procedure)
    (tail : ∀ value, first value → Gives holds (next value)) :
    Gives holds (procedure >>= next) := by
  intro session value done
  rw [run_bind] at done
  rcases outcome : procedure.run session with ⟨error | found, after⟩
  · rw [outcome] at done
    cases done
  · rw [outcome] at done
    exact tail found (head session found (by rw [outcome])) after value done

/-- A first step of which nothing is known. -/
theorem after {holds : β → Prop} {procedure : Procedure σ α} {next : α → Procedure σ β}
    (tail : ∀ value, Gives holds (next value)) : Gives holds (procedure >>= next) :=
  (anything procedure).bind fun value _ => tail value

end Gives

variable [Port σ]

/-- A line that is read is trimmed. -/
theorem readLine_gives : Gives Reply.Trimmed (readLine : Procedure σ String) := by
  intro session line done
  rw [run_readLine] at done
  rcases outcome : Port.readLine session.port with ⟨error | found, port⟩
  · rw [outcome] at done
    cases done
  · rw [outcome] at done
    cases done
    exact Port.readLine_trimmed (by rw [outcome])

/-- What is true of the lines that a poll reads and of its answer. -/
structure Listened (find : String → Option α) (attempts : Nat) (lines : List String)
    (answer : Option α) : Prop where
  /-- The lines are trimmed. -/
  trimmed : ∀ line ∈ lines, Reply.Trimmed line
  /-- There are no more than attempts. -/
  bounded : lines.length ≤ attempts
  /-- An answer is that of the last line, and the first one. -/
  answered : ∀ found, answer = some found → ∃ earlier line, lines = earlier ++ [line] ∧
    answerIn find line = some found ∧ ∀ other ∈ earlier, answerIn find other = none
  /-- Without an answer all attempts were made. -/
  unanswered : answer = none → lines.length = attempts ∧
    ∀ line ∈ lines, answerIn find line = none

/-- A poll listens. -/
theorem listen_gives (find : String → Option α) (attempts : Nat) :
    Gives (fun heard => Listened find attempts heard.1 heard.2)
      (listen find attempts : Procedure σ (List String × Option α)) := by
  induction attempts with
  | zero =>
    refine .pure ⟨?_, Nat.le_refl 0, ?_, ?_⟩
    · intro line inside
      cases inside
    · intro found done
      cases done
    · intro _
      refine ⟨rfl, fun line inside => ?_⟩
      cases inside
  | succ attempts ih =>
    rw [listen]
    refine readLine_gives.bind fun line trimmed => ?_
    cases judged : answerIn find line with
    | some found =>
      refine .pure ⟨?_, Nat.succ_le_succ (Nat.zero_le _), ?_, ?_⟩
      · intro other inside
        rw [List.mem_singleton.mp inside]
        exact trimmed
      · intro answer told
        cases told
        exact ⟨[], line, rfl, judged, fun other inside => absurd inside List.not_mem_nil⟩
      · intro missing
        cases missing
    | none =>
      refine ih.bind ?_
      rintro ⟨lines, answer⟩ heard
      refine .pure ⟨?_, ?_, ?_, ?_⟩
      · intro other inside
        rcases List.mem_cons.mp inside with rfl | later
        · exact trimmed
        · exact heard.trimmed other later
      · exact Nat.succ_le_succ heard.bounded
      · intro found done
        obtain ⟨earlier, last, rfl, answered, silent⟩ := heard.answered found done
        refine ⟨line :: earlier, last, rfl, answered, ?_⟩
        intro other inside
        rcases List.mem_cons.mp inside with rfl | later
        · exact judged
        · exact silent other later
      · intro missing
        obtain ⟨all, silent⟩ := heard.unanswered missing
        refine ⟨congrArg (· + 1) all, ?_⟩
        intro other inside
        rcases List.mem_cons.mp inside with rfl | later
        · exact judged
        · exact silent other later

theorem exchange_gives (command : Command) (wait : Milliseconds) (find : String → Option α)
    (attempts : Nat) :
    Gives (fun heard => Listened find attempts heard.1 heard.2)
      (exchange command wait find attempts : Procedure σ (List String × Option α)) :=
  .after fun _ => .after fun _ => listen_gives find attempts

end Procedure

namespace Upload

open Procedure

/-- A line that does not answer the begin marker. -/
def NoBeginAnswer (line : String) : Prop :=
  Reply.acceptsUpload line = false ∧ Reply.refusesUpload line = false

/-- The CA status that lines tell: that of the first one with a CA field. -/
def caTold (lines : List String) : CaStatus :=
  match lines.find? (mentions · "CA:") with
  | some line => if mentions line "CA: YES" then .present else .absent
  | none => .notReported

/-- A report that says of the lines that were read what they say. -/
structure Truthful (certificate : Certificate) (transcript : Transcript)
    (report : UploadReport) : Prop where
  /-- All of the certificate was sent, or the upload did not begin and nothing else is told. -/
  sent : (report.begin = .ready ∧ report.linesSent = certificate.lineCount) ∨
    (report.begin ≠ .ready ∧ report.linesSent = 0 ∧ report.saved = false ∧
      report.caStatus = .notReported ∧ report.success = false)
  /-- For each line that the report says was sent, a line was read. -/
  replied : transcript.replies.length = report.linesSent
  /-- A device that is ready said so in the last line of the begin phase, and none before is an
  answer. -/
  ready : report.begin = .ready → ∃ earlier line, transcript.begin = earlier ++ [line] ∧
    Reply.acceptsUpload line = true ∧ ∀ other ∈ earlier, NoBeginAnswer other
  /-- A refusal is the last line of the begin phase, and none before is an answer. -/
  refused : ∀ line, report.begin = .refused line →
    line ≠ "" ∧ Reply.Trimmed line ∧
      Reply.refusesUpload line = true ∧ Reply.acceptsUpload line = false ∧
      ∃ earlier, transcript.begin = earlier ++ [line] ∧ ∀ other ∈ earlier, NoBeginAnswer other
  /-- Without a response no line of the begin phase is an answer. -/
  noResponse : report.begin = .noResponse → ∀ line ∈ transcript.begin, NoBeginAnswer line
  /-- The certificate was saved when a line of the finish phase confirms it. -/
  saved : report.saved = true ↔ ∃ line ∈ transcript.finish, Reply.confirmsSave line = true
  /-- The first line of the verify phase with a CA field tells the CA status. -/
  caStatus : report.caStatus = caTold transcript.verify
  /-- Success is a device that was ready and one of the two confirmations. -/
  success : report.success = true ↔ report.begin = .ready ∧
    ((∃ line ∈ transcript.finish, Reply.confirmsSave line = true) ∨
      ∃ line, transcript.verify.find? (mentions · "CA:") = some line ∧
        mentions line "CA: YES" = true)

/-- An empty line is skipped anyway where it is no answer. -/
theorem answerIn_eq {α : Type} {find : String → Option α} (blank : find "" = none)
    (line : String) : answerIn find line = find line := by
  unfold answerIn
  by_cases empty : line = ""
  · rw [if_pos empty, empty, blank]
  · rw [if_neg empty]

/-- A line accepts the upload, or it refuses and does not accept it, or it is no answer. -/
theorem beginAnswer_cases (line : String) :
    (answerIn beginAnswer? line = some .ready ∧ Reply.acceptsUpload line = true) ∨
      (answerIn beginAnswer? line = some (.refused line) ∧
        Reply.refusesUpload line = true ∧ Reply.acceptsUpload line = false) ∨
      (answerIn beginAnswer? line = none ∧ NoBeginAnswer line) := by
  rw [answerIn_eq (by decide +kernel)]
  unfold beginAnswer?
  by_cases accepts : Reply.acceptsUpload line = true
  · exact .inl ⟨if_pos accepts, accepts⟩
  · rw [if_neg accepts]
    have rejected := Bool.eq_false_iff.mpr accepts
    by_cases refuses : Reply.refusesUpload line = true
    · exact .inr (.inl ⟨if_pos refuses, refuses, rejected⟩)
    · exact .inr (.inr ⟨if_neg refuses, rejected, Bool.eq_false_iff.mpr refuses⟩)

/-- No answer to the begin marker accepts or refuses. -/
theorem noBeginAnswer {line : String} (silent : answerIn beginAnswer? line = none) :
    NoBeginAnswer line := by
  rcases beginAnswer_cases line with ⟨found, -⟩ | ⟨found, -⟩ | ⟨-, none⟩
  · rw [silent] at found
    cases found
  · rw [silent] at found
    cases found
  · exact none

/-- A line that refuses the upload is not empty. -/
theorem refusal_nonempty {line : String} (refuses : Reply.refusesUpload line = true) :
    line ≠ "" := by
  rintro rfl
  exact absurd refuses (by decide +kernel)

/-- The finish phase reports a save exactly when one of its lines confirms it. -/
theorem saved_iff {attempts : Nat} {lines : List String} {answer : Option Unit}
    (heard : Listened saveConfirmed? attempts lines answer) :
    answer.isSome = true ↔ ∃ line ∈ lines, Reply.confirmsSave line = true := by
  have judged (line : String) : answerIn saveConfirmed? line = saveConfirmed? line :=
    answerIn_eq (by decide +kernel) line
  constructor
  · intro confirmed
    obtain ⟨found, rfl⟩ := Option.isSome_iff_exists.mp confirmed
    obtain ⟨earlier, line, rfl, answered, -⟩ := heard.answered found rfl
    refine ⟨line, by simp, ?_⟩
    rw [judged] at answered
    by_contra unconfirmed
    rw [saveConfirmed?, if_neg unconfirmed] at answered
    cases answered
  · rintro ⟨line, inside, confirms⟩
    by_contra missing
    have none : answer = none := Option.not_isSome_iff_eq_none.mp missing
    have silent := (heard.unanswered none).2 line inside
    rw [judged, saveConfirmed?, if_pos confirms] at silent
    cases silent

/-- The verify phase reports the CA status that its lines tell. -/
theorem caStatus_eq {attempts : Nat} {lines : List String} {answer : Option Bool}
    (heard : Listened Reply.caField? attempts lines answer) :
    CaStatus.ofField answer = caTold lines := by
  have judged (line : String) : answerIn Reply.caField? line = Reply.caField? line :=
    answerIn_eq (by decide +kernel) line
  have unnamed {line : String} (silent : answerIn Reply.caField? line = none) :
      ¬mentions line "CA:" = true := by
    intro named
    rw [judged, Reply.caField?, if_pos named] at silent
    cases silent
  unfold caTold
  cases answer with
  | none =>
    have silent := (heard.unanswered rfl).2
    rw [List.find?_eq_none.mpr fun line inside => unnamed (silent line inside)]
    rfl
  | some found =>
    obtain ⟨earlier, line, rfl, answered, silent⟩ := heard.answered found rfl
    rw [judged, Reply.caField?] at answered
    by_cases named : mentions line "CA:" = true
    · rw [if_pos named, Option.some.injEq] at answered
      have first : (earlier ++ [line]).find? (mentions · "CA:") = some line := by
        have earliest := List.find?_eq_none.mpr fun other inside => unnamed (silent other inside)
        rw [List.find?_append, earliest, Option.none_or]
        exact List.find?_cons_of_pos named
      rw [first, ← answered]
      cases yes : mentions line "CA: YES" <;> simp [CaStatus.ofField, yes]
    · rw [if_neg named] at answered
      cases answered

/-- The CA status is that a certificate is there when the first CA field says so. -/
theorem caTold_present (lines : List String) :
    caTold lines = .present ↔ ∃ line, lines.find? (mentions · "CA:") = some line ∧
      mentions line "CA: YES" = true := by
  unfold caTold
  cases first : lines.find? (mentions · "CA:") with
  | none => simp
  | some line => by_cases yes : mentions line "CA: YES" = true <;> simp [yes]

variable {σ : Type} [Port σ]

/-- Streaming counts the lines that it is given, from a number on, and reads a line for each. -/
theorem streamFromHeard_gives (delay : Milliseconds) (total sent : Nat) (lines : List String) :
    Gives (fun streamed : Nat × List String =>
        streamed.1 = sent + lines.length ∧ streamed.2.length = lines.length)
      (streamFromHeard delay total sent lines : Procedure σ (Nat × List String)) := by
  induction lines generalizing sent with
  | nil => exact .pure ⟨rfl, rfl⟩
  | cons line lines ih =>
    rw [streamFromHeard]
    refine .after fun _ => .after fun _ => .after fun reply => .after fun _ => ?_
    refine (ih (sent + 1)).bind ?_
    rintro ⟨count, replies⟩ ⟨counted, replied⟩
    refine .pure ⟨?_, congrArg (· + 1) replied⟩
    rw [counted, List.length_cons, Nat.add_assoc, Nat.add_comm 1]

/-- Streaming a certificate counts its lines, and reads a line for each. -/
theorem streamHeard_gives (plan : UploadPlan) (certificate : Certificate) :
    Gives (fun streamed : Nat × List String =>
        streamed.1 = certificate.lineCount ∧ streamed.2.length = streamed.1)
      (streamHeard plan certificate : Procedure σ (Nat × List String)) := by
  have every := @streamFromHeard_gives σ _ plan.lineDelay certificate.lineCount 0
    certificate.lines
  simp only [Nat.zero_add] at every
  refine .after fun _ session streamed done => ?_
  obtain ⟨counted, replied⟩ := every session streamed done
  exact ⟨counted, replied.trans counted.symm⟩

/-- What follows an accepted begin marker tells the truth of its own phases. -/
theorem transferHeard_gives (plan : UploadPlan) (certificate : Certificate)
    (beginLines : List String) :
    Gives (fun heard : UploadReport × Transcript =>
        heard.1.begin = .ready ∧ heard.1.linesSent = certificate.lineCount ∧
        heard.2.replies.length = heard.1.linesSent ∧ heard.2.begin = beginLines ∧
        (heard.1.saved = true ↔ ∃ line ∈ heard.2.finish, Reply.confirmsSave line = true) ∧
        heard.1.caStatus = caTold heard.2.verify)
      (transferHeard plan certificate beginLines : Procedure σ (UploadReport × Transcript)) := by
  refine (streamHeard_gives plan certificate).bind fun ⟨linesSent, replies⟩ ⟨all, each⟩ => ?_
  refine (exchange_gives _ _ _ _).bind fun ⟨finishLines, confirmation⟩ finished => ?_
  refine .after fun _ => (exchange_gives _ _ _ _).bind fun ⟨verifyLines, field⟩ verified => ?_
  refine .after fun _ => .after fun _ => .pure ⟨rfl, all, each, rfl, ?_, ?_⟩
  · exact saved_iff finished
  · exact caStatus_eq verified

theorem success_iff (report : UploadReport) :
    report.success = true ↔ report.saved = true ∨ report.caStatus = .present := by
  unfold UploadReport.success
  rw [Bool.or_eq_true, beq_iff_eq]

/-- A report of an upload that the device did not let begin has nothing of the later phases. -/
theorem aborted_truthful {certificate : Certificate} {lines : List String}
    {outcome : BeginOutcome} (stopped : outcome ≠ .ready)
    (refused : ∀ line, outcome = .refused line → Reply.Trimmed line ∧
      Reply.refusesUpload line = true ∧ Reply.acceptsUpload line = false ∧
      ∃ earlier, lines = earlier ++ [line] ∧ ∀ other ∈ earlier, NoBeginAnswer other)
    (noResponse : outcome = .noResponse → ∀ line ∈ lines, NoBeginAnswer line) :
    Truthful certificate { begin := lines } (.aborted outcome) where
  sent := .inr ⟨stopped, rfl, rfl, rfl, rfl⟩
  replied := rfl
  ready started := absurd started stopped
  refused line told := by
    obtain ⟨trimmed, refuses, rest⟩ := refused line told
    exact ⟨refusal_nonempty refuses, trimmed, refuses, rest⟩
  noResponse := noResponse
  saved := by simp [UploadReport.aborted]
  caStatus := rfl
  success := by
    constructor
    · intro done
      cases done
    · rintro ⟨started, -⟩
      exact absurd started stopped

/-- An upload that is heard reports what it heard. -/
theorem heard_gives (plan : UploadPlan) (certificate : Certificate) :
    Gives (fun heard => Truthful certificate heard.2 heard.1)
      (heard plan certificate : Procedure σ (UploadReport × Transcript)) := by
  refine .after fun _ => .after fun _ =>
    (exchange_gives _ _ _ _).bind fun ⟨lines, answer⟩ asked => .after fun _ => ?_
  cases answer with
  | none =>
    have silent := (asked.unanswered rfl).2
    exact .pure (aborted_truthful nofun nofun fun _ line inside =>
      noBeginAnswer (silent line inside))
  | some outcome =>
    obtain ⟨earlier, line, rfl, answered, silent⟩ := asked.answered outcome rfl
    have before (other : String) (inside : other ∈ earlier) : NoBeginAnswer other :=
      noBeginAnswer (silent other inside)
    -- The answer is that of the last line, so its three readings are the outcomes.
    rcases beginAnswer_cases line with ⟨found, accepts⟩ | ⟨found, refuses, rejected⟩ |
      ⟨missing, -⟩
    · rw [answered, Option.some.injEq] at found
      subst found
      intro session value done
      obtain ⟨started, all, each, told, saved, caStatus⟩ :=
        transferHeard_gives _ _ _ session value done
      exact {
        sent := .inl ⟨started, all⟩
        replied := each
        ready := fun _ => ⟨earlier, line, told, accepts, before⟩
        refused := fun _ refused => nomatch started.symm.trans refused
        noResponse := fun missing => nomatch started.symm.trans missing
        saved := saved
        caStatus := caStatus
        success := by
          rw [success_iff, saved, caStatus, caTold_present]
          exact (and_iff_right started).symm }
    · rw [answered, Option.some.injEq] at found
      subst found
      have trimmed := asked.trimmed line (by simp)
      refine .pure (aborted_truthful nofun ?_ nofun)
      rintro _ ⟨⟩
      exact ⟨trimmed, refuses, rejected, earlier, rfl, before⟩
    · rw [answered] at missing
      cases missing

/-- **Reports are truthful about what was read.** Whatever the port does, a report that an upload
has is one of the lines that it read: there is a transcript of the very same phases, and the report
says what the transcript says. -/
theorem report_truthful (plan : UploadPlan) (certificate : Certificate) (session : Session σ)
    (report : UploadReport) (done : ((run plan certificate).run session).1 = .ok report) :
    ∃ transcript,
      (heard plan certificate).run session =
        (.ok (report, transcript), ((phases plan certificate).run session).2) ∧
      Truthful certificate transcript report := by
  have reported := (run_reports done).1
  rw [phases_erases, run_map] at reported ⊢
  rcases outcome : (heard plan certificate).run session with ⟨error | ⟨found, transcript⟩, after⟩
  · rw [outcome] at reported
    cases reported
  · rw [outcome] at reported
    cases reported
    exact ⟨transcript, rfl, heard_gives plan certificate session _ (by rw [outcome])⟩

/-- A device that greets, is ready and confirms the save is reported as it answered. -/
theorem report_truthful_saved :
    let answers (text : String) : List (List Item) := [(Utf8.encode text.toList).map .byte]
    let device : Device := { responder := {
      beginReplies := answers "hello\nready to receive\n"
      finishReplies := answers " certificate saved \n"
      statusReplies := answers "CA: NO\n" } }
    let session : Session Device := { port := device }
    let report : UploadReport := ⟨.ready, 2, true, .absent⟩
    ((run {} (.ofText "a\nb")).run session).1 = .ok report ∧
      ∃ transcript,
        (heard {} (.ofText "a\nb")).run session =
          (.ok (report, transcript), ((phases {} (.ofText "a\nb")).run session).2) ∧
        Truthful (.ofText "a\nb") transcript report := by
  intro answers device session report
  have done : ((run {} (.ofText "a\nb")).run session).1 = .ok report := by decide +kernel
  exact ⟨done, report_truthful {} (.ofText "a\nb") session report done⟩

end Upload

end CertConsole
