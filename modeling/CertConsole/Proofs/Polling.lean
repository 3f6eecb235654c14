import CertConsole.Port.Device
import CertConsole.Proofs.Port
import CertConsole.Proofs.Procedure
import Mathlib.Control.Monad.Basic

/-!
# Polling

A poll reads line after line and ends at the first one that is an answer, at an error, or where its
attempts are used up. `FirstMatch` says what that comes to in terms of the line reads alone, and a
poll comes to exactly that. So a poll with more attempts is one with fewer that goes on only where
nothing was found (`poll_add`), and a phase that was answered has no use for further attempts
(`inquire_further`, `polls_first_match`).
-/
namespace CertConsole

namespace Procedure

variable {σ α β : Type} [Port σ]

/-- A line that a poll reads and goes on behind: it is empty or has no answer. -/
def Passed (find : String → Option α) (port : σ) (index : Nat) : Prop :=
  ∃ line, Port.lineAt index port = .ok line ∧ (line = "" ∨ find line = none)

/-- What line reads from a port come to when the first answer among them is looked for, and the
port that is left. -/
inductive FirstMatch (find : String → Option α) (attempts : Nat) (port : σ) :
    Except PortError (Option α) → σ → Prop where
  /-- A line is an answer, and all lines before it were passed. -/
  | found (index : Nat) (within : index < attempts)
      (passed : ∀ earlier < index, Passed find port earlier) {line : String} {answer : α}
      (read : Port.lineAt index port = .ok line) (visible : line ≠ "")
      (accepted : find line = some answer) :
      FirstMatch find attempts port (.ok (some answer)) (Port.afterLines (index + 1) port)
  /-- All lines that may be read were passed. -/
  | missed (passed : ∀ index < attempts, Passed find port index) :
      FirstMatch find attempts port (.ok none) (Port.afterLines attempts port)
  /-- A read failed, and all lines before it were passed. -/
  | failed (index : Nat) (within : index < attempts)
      (passed : ∀ earlier < index, Passed find port earlier) {error : ChannelError}
      (read : Port.lineAt index port = .error error) :
      FirstMatch find attempts port (.error (.channel error)) (Port.afterLines (index + 1) port)

/-- Line reads always come to something. -/
theorem exists_firstMatch (find : String → Option α) (attempts : Nat) (port : σ) :
    ∃ result last, FirstMatch find attempts port result last := by
  induction attempts with
  | zero => exact ⟨_, _, .missed fun index below => absurd below (Nat.not_lt_zero index)⟩
  | succ attempts ih =>
    obtain ⟨result, last, first⟩ := ih
    cases first with
    | found index within passed read visible accepted =>
      exact ⟨_, _, .found index (Nat.lt_succ_of_lt within) passed read visible accepted⟩
    | failed index within passed read =>
      exact ⟨_, _, .failed index (Nat.lt_succ_of_lt within) passed read⟩
    | missed passed =>
      -- One more line is read, and it decides.
      have further : attempts < attempts + 1 := Nat.lt_succ_self attempts
      cases read : Port.lineAt attempts port with
      | error error => exact ⟨_, _, .failed attempts further passed read⟩
      | ok line =>
        by_cases ignored : line = "" ∨ find line = none
        · refine ⟨_, _, .missed fun index below => ?_⟩
          rcases Nat.lt_succ_iff_lt_or_eq.mp below with earlier | rfl
          · exact passed index earlier
          · exact ⟨line, read, ignored⟩
        · rw [not_or] at ignored
          obtain ⟨answer, accepted⟩ := Option.ne_none_iff_exists'.mp ignored.2
          exact ⟨_, _, .found attempts further passed read ignored.1 accepted⟩

/-- A line that is passed has no answer in it. -/
theorem answerIn_passed {find : String → Option α} {line : String}
    (passed : line = "" ∨ find line = none) : answerIn find line = none := by
  unfold answerIn
  rcases passed with empty | unmatched
  · rw [if_pos empty]
  · rw [unmatched, ite_self]

section

variable (find : String → Option α) (attempts : Nat) {session : Session σ} {line : String}

/-- A poll that reads an answer ends with it. -/
theorem run_poll_found {answer : α} (read : (Port.readLine session.port).1 = .ok line)
    (answered : answerIn find line = some answer) :
    (poll find (attempts + 1)).run session =
      (.ok (some answer),
        { session with
          port := (Port.readLine session.port).2, log := session.log ++ lineEvents line }) := by
  rw [poll_succ, run_bind, run_readLine_ok read]
  simp only [answered, run_pure]

/-- A poll that reads no answer goes on with one attempt less. -/
theorem run_poll_missed (read : (Port.readLine session.port).1 = .ok line)
    (unanswered : answerIn find line = none) :
    (poll find (attempts + 1)).run session =
      (poll find attempts).run
        { session with
          port := (Port.readLine session.port).2, log := session.log ++ lineEvents line } := by
  rw [poll_succ, run_bind, run_readLine_ok read]
  simp only [unanswered]

/-- A poll that cannot read fails. -/
theorem run_poll_failed {error : ChannelError}
    (read : (Port.readLine session.port).1 = .error error) :
    (poll find (attempts + 1)).run session =
      (.error (.channel error), { session with port := (Port.readLine session.port).2 }) := by
  rw [poll_succ, run_bind, run_readLine_error read]

end

/-- A poll goes on behind the lines that it passes with the attempts that are left. -/
theorem poll_passes (find : String → Option α) (attempts : Nat) {index : Nat}
    {session : Session σ} (passed : ∀ earlier < index, Passed find session.port earlier) :
    ∃ log, (poll find (index + attempts)).run session =
      (poll find attempts).run
        { session with port := Port.afterLines index session.port, log } := by
  induction index generalizing session with
  | zero =>
    rw [Nat.zero_add]
    exact ⟨session.log, rfl⟩
  | succ index ih =>
    obtain ⟨line, read, ignored⟩ := passed 0 (Nat.succ_pos index)
    have step := run_poll_missed find (index + attempts) read (answerIn_passed ignored)
    -- The lines behind the first one are those of the port that it leaves.
    have behind : ∀ earlier < index, Passed find (Port.readLine session.port).2 earlier :=
      fun earlier below => passed (earlier + 1) (Nat.succ_lt_succ below)
    obtain ⟨log, later⟩ := @ih
      { session with
        port := (Port.readLine session.port).2, log := session.log ++ lineEvents line } behind
    refine ⟨log, ?_⟩
    rw [Nat.add_right_comm, step]
    exact later

/-- A poll reaches a line that it may read if it passes all lines before it. -/
theorem poll_reaches (find : String → Option α) {index attempts : Nat} {session : Session σ}
    (within : index < attempts)
    (passed : ∀ earlier < index, Passed find session.port earlier) :
    ∃ rest log, (poll find attempts).run session =
      (poll find (rest + 1)).run
        { session with port := Port.afterLines index session.port, log } := by
  obtain ⟨rest, rfl⟩ := Nat.exists_eq_add_of_lt within
  obtain ⟨log, reached⟩ := poll_passes find (rest + 1) passed
  exact ⟨rest, log, reached⟩

/-- A poll comes to the first match among the lines that it may read, and leaves the port behind
the line that decided. -/
theorem poll_first {find : String → Option α} {attempts : Nat} {session : Session σ}
    {result : Except PortError (Option α)} {last : σ}
    (first : FirstMatch find attempts session.port result last) :
    ∃ log, (poll find attempts).run session = (result, { session with port := last, log }) := by
  cases first with
  | missed passed => exact poll_passes find 0 passed
  | @found index within passed line answer read visible accepted =>
    obtain ⟨rest, log, reached⟩ := poll_reaches find within passed
    have answered : answerIn find line = some answer := by
      unfold answerIn
      rw [if_neg visible, accepted]
    refine ⟨log ++ lineEvents line, ?_⟩
    rw [reached, Port.afterLines_last]
    apply run_poll_found
    · exact read
    · exact answered
  | failed index within passed read =>
    obtain ⟨rest, log, reached⟩ := poll_reaches find within passed
    refine ⟨log, ?_⟩
    rw [reached, Port.afterLines_last]
    apply run_poll_failed
    exact read

/-- What a first step finds; what a second one finds where the first finds nothing. -/
def otherwise (first second : Procedure σ (Option α)) : Procedure σ (Option α) := do
  match ← first with
  | some found => return some found
  | none => second

/-- Attempts add up: the further ones are used only where the others found nothing. -/
theorem poll_add (find : String → Option α) (first second : Nat) :
    (poll find (first + second) : Procedure σ (Option α)) =
      otherwise (poll find first) (poll find second) := by
  induction first with
  | zero =>
    rw [Nat.zero_add]
    rfl
  | succ first ih =>
    rw [Nat.add_right_comm, poll_succ, poll_succ, ih]
    unfold otherwise
    rw [bind_assoc]
    congr 1
    funext line
    cases answerIn find line <;> rfl

/-- A phase that failed or was answered has no use for further attempts. -/
theorem inquire_further {command : Command} {wait : Milliseconds} {find : String → Option α}
    {attempts limit : Nat} {conclude : Option α → β} {event : β → Event} {session : Session σ}
    (raised : attempts ≤ limit)
    (decided : ((inquire command wait find attempts conclude event).run session).1 ≠
      .ok (conclude none)) :
    (inquire command wait find limit conclude event).run session =
      (inquire command wait find attempts conclude event).run session := by
  obtain ⟨more, rfl⟩ := Nat.exists_eq_add_of_le raised
  unfold inquire at decided ⊢
  simp only [run_bind, run_pause, poll_add, otherwise] at decided ⊢
  -- A command that could not be sent is not followed by a poll.
  generalize (send command).run session = sent at decided ⊢
  rcases sent with ⟨error | _, asked⟩
  · rfl
  dsimp only at decided ⊢
  generalize (poll find attempts).run { asked with port := Port.pause wait asked.port } = polled
    at decided ⊢
  rcases polled with ⟨error | _ | answer, after⟩
  · rfl
  · exact absurd rfl decided
  · rfl

end Procedure

namespace Upload

open Procedure

variable {σ : Type} [Port σ]

/-- **A poll is a bounded first match, and attempts add up.** From any session a poll comes to the
first match among the lines that it may read, which there always is, and leaves the port behind the
line that decided. A poll with more attempts goes on only where fewer find nothing. So a phase that
was answered runs the same, to its last event, under any higher limit. -/
theorem polls_first_match :
    (∀ {α : Type} (find : String → Option α) (attempts : Nat) (session : Session σ),
      (∃ result last, FirstMatch find attempts session.port result last) ∧
        ∀ result last, FirstMatch find attempts session.port result last →
          ∃ log, (poll find attempts).run session =
            (result, { session with port := last, log })) ∧
    (∀ {α : Type} (find : String → Option α) (first second : Nat),
      (poll find (first + second) : Procedure σ (Option α)) =
        otherwise (poll find first) (poll find second)) ∧
    ∀ (plan : UploadPlan) (limit : Nat) (session : Session σ),
      (plan.beginAttempts ≤ limit → ((begin plan).run session).1 ≠ .ok .noResponse →
        (begin { plan with beginAttempts := limit }).run session = (begin plan).run session) ∧
      (plan.endAttempts ≤ limit → ((finish plan).run session).1 ≠ .ok false →
        (finish { plan with endAttempts := limit }).run session = (finish plan).run session) ∧
      (plan.statusAttempts ≤ limit → ((verify plan).run session).1 ≠ .ok .notReported →
        (verify { plan with statusAttempts := limit }).run session =
          (verify plan).run session) := by
  refine ⟨?_, poll_add, ?_⟩
  · intro α find attempts session
    constructor
    · exact exists_firstMatch find attempts session.port
    · intro result last first
      exact poll_first first
  · intro plan limit session
    refine ⟨?_, ?_, ?_⟩
    · intro raised answered
      rw [begin_eq] at answered ⊢
      exact inquire_further raised answered
    · intro raised saved
      rw [finish_eq] at saved ⊢
      exact inquire_further raised saved
    · intro raised reported
      rw [verify_eq] at reported ⊢
      exact inquire_further raised reported

/-- A save that is confirmed on the last line that may be read, behind an empty one. -/
theorem polls_first_match_last :
    let reply : List Item := (Utf8.encode "\ncertificate saved\nCA: NO\n".toList).map .byte
    let waiting : Device := { queue := reply }
    let asked : Device := { responder := { finishReplies := [reply] } }
    (∃ log, (poll saveConfirmed? 2).run ⟨waiting, [], []⟩ =
      (.ok (some ()), ⟨Port.afterLines 2 waiting, log, []⟩)) ∧
    ((finish { endAttempts := 2 }).run ⟨asked, [], []⟩).1 ≠ .ok false ∧
    (finish { endAttempts := 20 }).run ⟨asked, [], []⟩ =
      (finish { endAttempts := 2 }).run ⟨asked, [], []⟩ := by
  intro reply waiting asked
  obtain ⟨polls, -, raises⟩ := @polls_first_match Device _
  have passed : ∀ earlier < 1, Passed saveConfirmed? waiting earlier := by
    intro earlier below
    obtain rfl := Nat.lt_one_iff.mp below
    exact ⟨"", by decide +kernel, .inl rfl⟩
  have read : Port.lineAt 1 waiting = .ok "certificate saved" := by decide +kernel
  have accepted : saveConfirmed? "certificate saved" = some () := by decide +kernel
  have first : FirstMatch saveConfirmed? 2 waiting _ _ :=
    .found 1 (by decide) passed read (by decide) accepted
  have saved : ((finish { endAttempts := 2 }).run ⟨asked, [], []⟩).1 ≠ .ok false := by
    decide +kernel
  refine ⟨(polls saveConfirmed? 2 ⟨waiting, [], []⟩).2 _ _ first, saved, ?_⟩
  exact (raises { endAttempts := 2 } 20 ⟨asked, [], []⟩).2.1 (by decide) saved

end Upload

end CertConsole
