import CertConsole.Proofs.LineRefinement
import CertConsole.Proofs.Truthfulness

/-!
# The backlog

For each certificate line one line is read, however many the device answers with. So lines are left
unread where it answers with more than one, and lines that were left before are used up where it
answers with none (`unreadAfter`). The search for the save confirmation begins with what is unread
by then, and every line of it costs an attempt (`backlog_law`).
-/
namespace CertConsole

namespace Responder

/-- The lines that a command is answered with. -/
def replyLines (responder : Responder) (command : Command) : List WaitingLine :=
  WaitingLine.cut ((responder.answer (.ofBytes command.bytes)).filterMap Item.byte?)

/-- The responder behind one more command. -/
def heard (responder : Responder) (command : Command) : Responder :=
  { responder with commands := responder.commands ++ [command.bytes] }

/-- The replies to commands that follow one another. -/
def conversation : Responder → List Command → List (List WaitingLine)
  | _, [] => []
  | responder, command :: commands =>
    responder.replyLines command :: (responder.heard command).conversation commands

/-- Every command has one reply. -/
theorem length_conversation (responder : Responder) (commands : List Command) :
    (responder.conversation commands).length = commands.length := by
  induction commands generalizing responder with
  | nil => rfl
  | cons command commands ih => exact congrArg (· + 1) (ih (responder.heard command))

end Responder

namespace LineConsole

/-- What is unread once each of some replies has arrived and one line was read behind it. -/
def unreadAfter : List WaitingLine → List (List WaitingLine) → List WaitingLine
  | unread, [] => unread
  | unread, reply :: replies => unreadAfter (unread ++ reply).tail replies

/-- The unread lines are the last ones that arrived. -/
theorem unreadAfter_suffix (unread : List WaitingLine) (replies : List (List WaitingLine)) :
    unreadAfter unread replies <:+ unread ++ replies.flatten := by
  induction replies generalizing unread with
  | nil =>
    rw [List.flatten_nil, List.append_nil]
    exact List.suffix_refl unread
  | cons reply replies ih =>
    have taken : (unread ++ reply).tail <:+ unread ++ reply := List.tail_suffix _
    have joined : (unread ++ reply).tail ++ replies.flatten <:+
        (unread ++ reply) ++ replies.flatten := by
      obtain ⟨front, whole⟩ := taken
      exact ⟨front, by rw [← List.append_assoc, whole]⟩
    rw [List.flatten_cons, ← List.append_assoc]
    exact (ih (unread ++ reply).tail).trans joined

/-- A reply without a line uses up an unread line, and a longer one adds all of its lines but
one. -/
theorem length_unreadAfter {each : Nat} {replies : List (List WaitingLine)}
    (alike : ∀ reply ∈ replies, reply.length = each) (unread : List WaitingLine) :
    (unreadAfter unread replies).length =
      if each = 0 then unread.length - replies.length
      else unread.length + replies.length * (each - 1) := by
  induction replies generalizing unread with
  | nil => simp [unreadAfter]
  | cons reply replies ih =>
    have own : reply.length = each := alike reply List.mem_cons_self
    have later := ih (fun other inside => alike other (List.mem_cons_of_mem reply inside))
      (unread ++ reply).tail
    rw [unreadAfter, later, List.length_tail, List.length_append, own, List.length_cons]
    by_cases silent : each = 0
    · rw [if_pos silent, if_pos silent]
      omega
    · have more : (replies.length + 1) * (each - 1) = replies.length * (each - 1) + (each - 1) :=
        Nat.succ_mul _ _
      rw [if_neg silent, if_neg silent, more]
      omega

/-- A command is taken and its reply arrives. -/
theorem run_ask (command : Command) (console : LineConsole) :
    (ask command).run console = ((), { console with
      responder := console.responder.heard command
      unread := console.unread ++ console.responder.replyLines command }) := rfl

/-- A pop takes the first unread line, if there is one. -/
theorem run_pop_unread (console : LineConsole) :
    (pop.run console).2 = { console with unread := console.unread.tail } := by
  cases unread : console.unread with
  | nil =>
    rw [run_pop_nil unread, List.tail_nil, ← unread]
  | cons line rest => rw [run_pop_cons unread, List.tail_cons]

/-- The first line is taken, a line is popped for it and it is counted, and then the others are
streamed. -/
theorem run_streamFrom_cons (total sent : Nat) (line : String) (lines : List String)
    (console : LineConsole) :
    (streamFrom total sent (line :: lines)).run console =
      (streamFrom total (sent + 1) lines).run { console with
        responder := console.responder.heard (.line line)
        unread := (console.unread ++ console.responder.replyLines (.line line)).tail
        progress := console.progress ++ [(sent + 1, total)] } := by
  let asked : LineConsole := ((ask (.line line)).run console).2
  have step : (streamFrom total sent (line :: lines)).run console =
      (streamFrom total (sent + 1) lines).run { (pop.run asked).2 with
        progress := (pop.run asked).2.progress ++ [(sent + 1, total)] } := rfl
  rw [step, run_pop_unread]
  simp only [asked, run_ask]

/-- Streaming returns the number of the lines, counted from a number on. -/
theorem streamFrom_count (total sent : Nat) (lines : List String) (console : LineConsole) :
    ((streamFrom total sent lines).run console).1 = sent + lines.length := by
  induction lines generalizing sent console with
  | nil => rfl
  | cons line lines ih =>
    rw [run_streamFrom_cons, ih, List.length_cons, Nat.add_assoc, Nat.add_comm 1]

/-- Streaming leaves what is unread behind the replies to the lines. -/
theorem streamFrom_unread (total sent : Nat) (lines : List String) (console : LineConsole) :
    ((streamFrom total sent lines).run console).2.unread =
      unreadAfter console.unread (console.responder.conversation (lines.map .line)) := by
  induction lines generalizing sent console with
  | nil => rfl
  | cons line lines ih =>
    rw [run_streamFrom_cons, ih]
    rfl

section Seek

variable {α : Type} {find : String → Option α}

/-- Seeking with attempts left goes on behind the line that is popped. -/
theorem run_seek_succ (find : String → Option α) (attempts : Nat) (console : LineConsole) :
    (seek find (attempts + 1)).run console =
      match Procedure.answerIn find (pop.run console).1 with
      | some found => (some found, (pop.run console).2)
      | none => (seek find attempts).run (pop.run console).2 := by
  have step : (seek find (attempts + 1)).run console =
      (match Procedure.answerIn find (pop.run console).1 with
        | some found => pure (some found)
        | none => seek find attempts : StateM LineConsole (Option α)).run (pop.run console).2 := rfl
  rw [step]
  cases Procedure.answerIn find (pop.run console).1 <;> rfl

/-- The first answer is found where there are more attempts than lines before it. -/
theorem seek_first {console : LineConsole} {passed rest : List WaitingLine} {line : WaitingLine}
    {answer : α} (unread : console.unread = passed ++ line :: rest)
    (unanswered : ∀ other ∈ passed, Procedure.answerIn find other.text = none)
    (answered : Procedure.answerIn find line.text = some answer) (attempts : Nat) :
    ((seek find attempts).run console).1 =
      if passed.length < attempts then some answer else none := by
  induction attempts generalizing passed console with
  | zero => rfl
  | succ attempts ih =>
    rw [run_seek_succ]
    cases passed with
    | nil =>
      rw [run_pop_cons unread]
      simp only [answered]
      rfl
    | cons first passed =>
      have missed := unanswered first List.mem_cons_self
      have later := @ih { console with unread := passed ++ line :: rest } passed rfl
        fun other inside => unanswered other (List.mem_cons_of_mem first inside)
      rw [run_pop_cons unread]
      simp only [missed, List.length_cons, Nat.add_lt_add_iff_right]
      exact later

/-- An answer that is found stands behind lines without one, and what follows it is left. -/
theorem seek_answered {console : LineConsole} {attempts : Nat} {answer : α}
    (found : ((seek find attempts).run console).1 = some answer) :
    ∃ passed line rest, console.unread = passed ++ line :: rest ∧
      (∀ other ∈ passed, Procedure.answerIn find other.text = none) ∧
      Procedure.answerIn find line.text = some answer ∧
      ((seek find attempts).run console).2.unread = rest := by
  induction attempts generalizing console with
  | zero => cases found
  | succ attempts ih =>
    rw [run_seek_succ] at found ⊢
    cases unread : console.unread with
    | nil =>
      -- Silence is no answer, and nothing is unread behind it.
      have silent : Procedure.answerIn find "" = none := rfl
      rw [run_pop_nil unread] at found
      simp only [silent] at found
      obtain ⟨passed, line, rest, waiting, -⟩ := ih found
      rw [unread] at waiting
      exact absurd waiting.symm (List.append_ne_nil_of_right_ne_nil _ (List.cons_ne_nil _ _))
    | cons first later =>
      rw [run_pop_cons unread] at found ⊢
      cases judged : Procedure.answerIn find first.text with
      | some other =>
        simp only [judged] at found ⊢
        cases found
        exact ⟨[], first, later, rfl, nofun, judged, rfl⟩
      | none =>
        simp only [judged] at found ⊢
        obtain ⟨passed, line, rest, waiting, unanswered, answered, left⟩ := ih found
        refine ⟨first :: passed, line, rest, congrArg (first :: ·) waiting, ?_, answered, left⟩
        intro other inside
        rcases List.mem_cons.mp inside with rfl | further
        · exact judged
        · exact unanswered other further

end Seek

/-- A begin marker that is accepted is answered with a line that says so, behind lines that are no
answer, and what follows that line is left. -/
theorem begin_ready {plan : UploadPlan} {console : LineConsole}
    (accepted : ((begin plan).run console).1 = .ready) :
    ∃ passed ready left,
      console.unread ++ console.responder.replyLines .begin = passed ++ ready :: left ∧
      (∀ other ∈ passed, Upload.NoBeginAnswer other.text) ∧ Reply.acceptsUpload ready.text = true ∧
      ((begin plan).run console).2.unread = left := by
  let asked : LineConsole := ((ask .begin).run console).2
  have answer : ((seek Upload.beginAnswer? plan.beginAttempts).run asked).1 = some .ready := by
    have concluded : ((seek Upload.beginAnswer? plan.beginAttempts).run asked).1.getD .noResponse =
        .ready := accepted
    cases found : ((seek Upload.beginAnswer? plan.beginAttempts).run asked).1 with
    | none => rw [found] at concluded; cases concluded
    | some outcome =>
      rw [found] at concluded
      exact congrArg some concluded
  obtain ⟨passed, ready, left, waiting, unanswered, answered, kept⟩ := seek_answered answer
  refine ⟨passed, ready, left, waiting, ?_, ?_, kept⟩
  · intro other inside
    exact Upload.noBeginAnswer (unanswered other inside)
  · rcases Upload.beginAnswer_cases ready.text with ⟨-, accepts⟩ | ⟨refused, -⟩ | ⟨none, -⟩
    · exact accepts
    · rw [answered] at refused
      cases refused
    · rw [answered] at none
      cases none

/-- The save is confirmed where there are more attempts than lines before the confirmation. -/
theorem finish_saved {plan : UploadPlan} {console : LineConsole}
    {earlier later : List WaitingLine} {confirmation : WaitingLine}
    (reply : console.responder.replyLines .finish = earlier ++ confirmation :: later)
    (unconfirmed : ∀ line ∈ console.unread ++ earlier, Reply.confirmsSave line.text = false)
    (confirmed : Reply.confirmsSave confirmation.text = true) :
    ((finish plan).run console).1 = true ↔
      console.unread.length + earlier.length < plan.endAttempts := by
  let asked : LineConsole := ((ask .finish).run console).2
  have judged (line : String) : Procedure.answerIn Upload.saveConfirmed? line =
      Upload.saveConfirmed? line := Upload.answerIn_eq (by decide +kernel) line
  have waiting : asked.unread = (console.unread ++ earlier) ++ confirmation :: later := by
    change console.unread ++ console.responder.replyLines .finish = _
    rw [reply, List.append_assoc]
  have unanswered : ∀ other ∈ console.unread ++ earlier,
      Procedure.answerIn Upload.saveConfirmed? other.text = none := by
    intro other inside
    rw [judged]
    exact if_neg (Bool.eq_false_iff.mp (unconfirmed other inside))
  have answered : Procedure.answerIn Upload.saveConfirmed? confirmation.text = some () := by
    rw [judged]
    exact if_pos confirmed
  have sought := seek_first waiting unanswered answered plan.endAttempts
  have concluded : ((finish plan).run console).1 =
      ((seek Upload.saveConfirmed? plan.endAttempts).run asked).1.isSome := rfl
  rw [concluded, sought, List.length_append]
  by_cases soon : console.unread.length + earlier.length < plan.endAttempts
  · rw [if_pos soon]
    exact iff_of_true rfl soon
  · rw [if_neg soon]
    exact iff_of_false Bool.false_ne_true soon

/-- Where the begin marker is accepted, the report says whether the save was confirmed behind the
lines. -/
theorem upload_saved {plan : UploadPlan} {certificate : Certificate} {console : LineConsole}
    (accepted : ((begin plan).run console).1 = .ready) :
    let started := ((begin plan).run console).2
    let streamed := ((streamFrom certificate.lineCount 0 certificate.lines).run started).2
    ((upload plan certificate).run console).1.saved = ((finish plan).run streamed).1 := by
  intro started streamed
  have begun : (begin plan).run console = (.ready, started) := Prod.ext accepted rfl
  unfold upload
  rw [StateT.run_bind, begun]
  rfl

end LineConsole

namespace Upload

open Procedure LineConsole

/-- **When a save confirmation is missed.** Let a dependable device accept the begin marker and
leave some lines of its reply unread. If it answers each certificate line with the same number of
lines, streaming leaves the last lines that arrived: all of each reply but one more than before, or
one less for each reply that has none. If none of them confirms the save, the upload reports the
save just where the first confirmation in the reply to the end marker has fewer lines before it,
unread ones and those of its reply, than there are attempts. -/
theorem backlog_law (plan : UploadPlan) (text : String) (session : Session Device)
    (dependable : session.port.Dependable) (idle : session.port.responder.pending = []) :
    let certificate := Certificate.ofText text
    let total := certificate.lineCount
    ∀ started, (opening plan certificate).run session = (.ok .ready, started) →
    let replies := started.port.responder.conversation (certificate.lines.map .line)
    ∃ passed ready left,
      session.port.responder.replyLines .begin = passed ++ ready :: left ∧
      (∀ line ∈ passed, NoBeginAnswer line.text) ∧ Reply.acceptsUpload ready.text = true ∧
      started.port.queue = items left ∧
      ∀ each, (∀ reply ∈ replies, reply.length = each) →
      ∃ streamed unread,
        (stream plan certificate).run started = (.ok total, streamed) ∧
        streamed.port.queue = items unread ∧
        unread <:+ left ++ replies.flatten ∧
        (1 ≤ each → unread.length = left.length + total * (each - 1)) ∧
        (each = 0 → unread.length = left.length - total) ∧
        ∀ earlier confirmation later,
          streamed.port.responder.replyLines .finish = earlier ++ confirmation :: later →
          (∀ line ∈ unread ++ earlier, Reply.confirmsSave line.text = false) →
          Reply.confirmsSave confirmation.text = true →
          ∃ report, ((run plan certificate).run session).1 = .ok report ∧
            (report.saved = true ↔ unread.length + earlier.length < plan.endAttempts) := by
  intro certificate total started opened replies
  have plain : ∀ line ∈ certificate.lines, Command.terminator ∉ (Command.line line).bytes :=
    fun line inside => line_plain inside
  -- The console of lines that the device is behind the opening, and behind the lines.
  let console : LineConsole := ((LineConsole.begin plan).run (consoleOf session)).2
  let machine : LineConsole :=
    ((LineConsole.streamFrom total 0 certificate.lines).run console).2
  obtain ⟨begun, models⟩ := opening_refines plan certificate dependable idle
  rw [opened] at begun models
  have accepted : ((LineConsole.begin plan).run (consoleOf session)).1 = .ready :=
    (Except.ok.inj begun).symm
  obtain ⟨passed, ready, left, waiting, unanswered, accepts, kept⟩ := begin_ready accepted
  have queue : started.port.queue = items left :=
    models.shown.queue.trans (congrArg items kept)
  refine ⟨passed, ready, left, waiting, unanswered, accepts, queue, ?_⟩
  intro each alike
  obtain ⟨sent, after⟩ := stream_refines plan plain started console models
  have shown : Shown ((stream plan certificate).run started).2.port machine := after.shown
  have unread : machine.unread = unreadAfter left replies := by
    have streamed := streamFrom_unread total 0 certificate.lines console
    rw [kept, ← models.shown.responder] at streamed
    exact streamed
  have counted : replies.length = total := by
    rw [Responder.length_conversation, List.length_map]
    rfl
  have everyLine : ((stream plan certificate).run started).1 = .ok total := by
    rw [sent, streamFrom_count, Nat.zero_add]
    rfl
  have length := length_unreadAfter alike left
  rw [← unread, counted] at length
  refine ⟨((stream plan certificate).run started).2, machine.unread,
    Prod.ext everyLine rfl, shown.queue, ?_, ?_, ?_, ?_⟩
  · rw [unread]
    exact unreadAfter_suffix left replies
  · intro some
    rw [length, if_neg (Nat.one_le_iff_ne_zero.mp some)]
  · intro none
    rw [length, if_pos none]
  · intro earlier confirmation later reply unconfirmed confirmed
    obtain ⟨reported, last⟩ := phases_refine plan plain dependable idle
    have closed : (Port.close ((phases plan certificate).run session).2.port).1 = .ok () :=
      last.shown.dependable.close_ok
    refine ⟨((LineConsole.upload plan certificate).run (consoleOf session)).1, ?_, ?_⟩
    · rw [run_ok reported, closed]
      rfl
    · rw [upload_saved accepted]
      rw [shown.responder] at reply
      exact finish_saved reply unconfirmed confirmed

/-- A console that echoes each line leaves two lines unread behind two lines. With one more line
ahead of the confirmation three attempts miss it. -/
theorem backlog_law_echo :
    let answers (text : String) : List (List Item) := [(Utf8.encode text.toList).map .byte]
    let device : Device := { responder := {
      beginReplies := answers "ready to receive\n"
      lineReplies := answers "echo\nok\n"
      finishReplies := answers "closing\ncertificate saved\n" } }
    let session : Session Device := { port := device }
    let plan : UploadPlan := { endAttempts := 3 }
    device.Dependable ∧
      ∃ report, ((run plan (.ofText "a\nb")).run session).1 = .ok report ∧
        report.saved = false := by
  intro answers device session plan
  have lines {text : String} (ends : (Utf8.encode text.toList).getLast? = some Port.lineFeed) :
      ∀ reply ∈ answers text, LineReply reply := by
    intro reply inside
    rw [List.mem_singleton.mp inside]
    exact ⟨_, rfl, .inr ends⟩
  have dependable : device.Dependable := {
    isOpen := rfl
    writes := nofun
    writeLimit := by decide
    flushes := nofun
    clears := nofun
    closes := nofun
    timeout := by decide
    idle := rfl
    replies := by
      intro kind
      cases kind with
      | begin => exact lines (by decide +kernel)
      | line => exact lines (by decide +kernel)
      | finish => exact lines (by decide +kernel)
      | status => exact nofun }
  let certificate := Certificate.ofText "a\nb"
  let started : Session Device := ((opening plan certificate).run session).2
  have accepted : ((opening plan certificate).run session).1 = .ok .ready := by decide +kernel
  obtain ⟨passed, ready, left, waiting, -, -, -, law⟩ :=
    backlog_law plan "a\nb" session dependable rfl started (Prod.ext accepted rfl)
  have alone : (session.port.responder.replyLines .begin).length = 1 := by decide +kernel
  have none : left.length = 0 := by
    have lengths := (congrArg List.length waiting).symm.trans alone
    rw [List.length_append, List.length_cons] at lengths
    omega
  have alike : ∀ reply ∈ started.port.responder.conversation (certificate.lines.map .line),
      reply.length = 2 := by decide +kernel
  have quiet : ∀ reply ∈ started.port.responder.conversation (certificate.lines.map .line),
      ∀ line ∈ reply, Reply.confirmsSave line.text = false := by decide +kernel
  obtain ⟨streamed, unread, sent, -, last, more, -, decides⟩ := law 2 alike
  have two : unread.length = 2 := by
    rw [more (by decide), none]
    decide +kernel
  have same : streamed = ((stream plan certificate).run started).2 := by rw [sent]
  have texts : (streamed.port.responder.replyLines .finish).map WaitingLine.text =
      ["closing", "certificate saved"] := by
    rw [same]
    decide +kernel
  obtain ⟨closing, _, split, first, rest⟩ := List.map_eq_cons_iff.mp texts
  obtain ⟨confirmation, later, tail, second, -⟩ := List.map_eq_cons_iff.mp rest
  have unconfirmed : ∀ line ∈ unread ++ [closing], Reply.confirmsSave line.text = false := by
    intro line inside
    rcases List.mem_append.mp inside with early | late
    · have arrived := last.subset early
      rw [List.length_eq_zero_iff.mp none, List.nil_append] at arrived
      obtain ⟨reply, member, within⟩ := List.mem_flatten.mp arrived
      exact quiet reply member line within
    · rw [List.mem_singleton.mp late, first]
      decide +kernel
  have reply : streamed.port.responder.replyLines .finish = [closing] ++ confirmation :: later := by
    rw [split, tail]
    rfl
  have confirmed : Reply.confirmsSave confirmation.text = true := by
    rw [second]
    decide +kernel
  obtain ⟨report, done, saved⟩ := decides _ _ _ reply unconfirmed confirmed
  refine ⟨dependable, report, done, Bool.eq_false_iff.mpr fun claimed => ?_⟩
  have soon : unread.length + 1 < 3 := saved.mp claimed
  omega

end Upload

end CertConsole
