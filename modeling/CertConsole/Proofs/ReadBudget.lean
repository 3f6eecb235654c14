import CertConsole.Proofs.Attended
import CertConsole.Proofs.Metered
import CertConsole.Proofs.MuteDevice

/-!
# The read budget of an upload

How many lines an upload reads is bounded by its attempts and the lines of its certificate, and how
many reads it makes by the items that they take and the lines. Both are kept up by every step
(`Spends`), also by one that fails, though replies refill the queue between the lines.
-/
namespace CertConsole

namespace Attended

/-- A metered device between two lines. No more lines were read than that many, and no more reads
were made than items were taken and lines were read. -/
structure Budgeted (base count : Nat) (attended : Attended Metered) : Prop where
  between : attended.line = none
  lines : attended.lines.length ≤ count
  reads : attended.port.reads ≤ attended.port.consumed + attended.lines.length
  sound : attended.port.Sound base

namespace Budgeted

variable {base count : Nat} {attended : Attended Metered}

/-- A larger budget is kept, too. -/
theorem mono (budgeted : attended.Budgeted base count) {more : Nat} (larger : count ≤ more) :
    attended.Budgeted base more :=
  { budgeted with lines := budgeted.lines.trans larger }

/-- Delivering a buffer costs nothing. -/
theorem deliver (budgeted : attended.Budgeted base count) (bytes : List UInt8) :
    (Port.deliver bytes attended).2.Budgeted base count := by
  have write (bytes : List UInt8) {other : Attended Metered}
      (budgeted : other.Budgeted base count) :
      (Port.write bytes other).2.Budgeted base count :=
    { budgeted with sound := (Metered.sound_stable base).write bytes budgeted.sound }
  have flush {other : Attended Metered} (budgeted : other.Budgeted base count) :
      (Port.flush other).2.Budgeted base count :=
    { budgeted with sound := (Metered.sound_stable base).flush budgeted.sound }
  exact Port.deliver_keeps write flush bytes budgeted

/-- Discarding input costs nothing, and what is discarded was not taken by a read. -/
theorem clear (budgeted : attended.Budgeted base count) :
    (Port.clear attended).2.Budgeted base count :=
  { budgeted with sound := (Metered.sound_stable base).clear budgeted.sound }

/-- Closing costs nothing. -/
theorem close (budgeted : attended.Budgeted base count) :
    (Port.close attended).2.Budgeted base count :=
  { budgeted with sound := (Metered.sound_stable base).close budgeted.sound }

/-- Reading a line costs one line. -/
theorem readLine (budgeted : attended.Budgeted base count) :
    (Port.readLine attended).2.Budgeted base (count + 1) := by
  have sound : (Port.readLine attended.port).2.Sound base :=
    Port.readLine_keeps (Metered.sound_stable base).read budgeted.sound
  have cost := Metered.readLine_metered budgeted.sound.sufficient
  have lines := budgeted.lines
  have reads := budgeted.reads
  rw [readLine_attended budgeted.between]
  constructor
  case between => exact budgeted.between
  case lines =>
    rw [List.length_append, List.length_singleton]
    omega
  case reads =>
    rw [List.length_append, List.length_singleton]
    show (Port.readLine attended.port).2.reads ≤
      (Port.readLine attended.port).2.consumed + (attended.lines.length + 1)
    omega
  case sound => exact sound

end Budgeted

end Attended

namespace Procedure

variable {α β : Type}

/-- A procedure reads that many lines at most. -/
def Spends (lines : Nat) (procedure : Procedure (Attended Metered) α) : Prop :=
  ∀ base count, Upholds (fun session => session.port.Budgeted base count) procedure
    (fun _ session => session.port.Budgeted base (count + lines))
    fun _ session => session.port.Budgeted base (count + lines)

namespace Spends

variable {first second : Nat} {procedure : Procedure (Attended Metered) α}
  {next : α → Procedure (Attended Metered) β}

theorem pure (value : α) : Spends 0 (Pure.pure value) :=
  fun _ _ => Upholds.pure fun _ budgeted => budgeted

/-- What reads no more lines than some number reads no more than a larger one. -/
theorem mono (spends : Spends first procedure) (fewer : first ≤ second) :
    Spends second procedure := by
  intro base count
  have more : count + first ≤ count + second := Nat.add_le_add_left fewer count
  exact (spends base count).weaken (fun _ _ left => left.mono more) fun _ _ left => left.mono more

/-- Two steps read what each of them reads; a step that fails leaves the other one's part unread. -/
theorem bind (head : Spends first procedure) (tail : ∀ value, Spends second (next value)) :
    Spends (first + second) (procedure >>= next) := by
  intro base count
  have some : count + first ≤ count + (first + second) := by omega
  rw [← Nat.add_assoc] at some ⊢
  have spent := (head base count).weaken (fun _ _ left => left) fun _ _ left => left.mono some
  exact Upholds.bind spent fun value => tail value base (count + first)

/-- A step that reads nothing may come first. -/
theorem after (head : Spends 0 procedure) (tail : ∀ value, Spends second (next value)) :
    Spends second (procedure >>= next) :=
  (head.bind tail).mono (Nat.le_of_eq (Nat.zero_add second))

/-- A step that reads nothing may come last. -/
theorem before (head : Spends first procedure) (tail : ∀ value, Spends 0 (next value)) :
    Spends first (procedure >>= next) :=
  head.bind tail

theorem tell (events : List Event) : Spends 0 (Procedure.tell events) :=
  fun _ _ _ budgeted => budgeted

theorem advance (sent total : Nat) : Spends 0 (Procedure.advance sent total) :=
  fun _ _ _ budgeted => budgeted

theorem pause (span : Milliseconds) : Spends 0 (Procedure.pause span) :=
  fun _ _ _ budgeted => { budgeted with sound := budgeted.sound }

theorem send (command : Command) : Spends 0 (Procedure.send command) :=
  fun _ _ => .of_always fun _ budgeted => budgeted.deliver command.encode

theorem readLine : Spends 1 Procedure.readLine := by
  intro base count
  apply Upholds.of_always
  intro session budgeted
  rw [readLine_port]
  exact budgeted.readLine

/-- A poll reads a line for each attempt at most. -/
theorem poll (find : String → Option α) (attempts : Nat) :
    Spends attempts (Procedure.poll find attempts) := by
  induction attempts with
  | zero => exact .pure none
  | succ attempts ih =>
    rw [poll_succ, Nat.add_comm]
    apply Spends.bind .readLine
    intro line
    cases answerIn find line with
    | none => exact ih
    | some found => exact (Spends.pure _).mono (Nat.zero_le attempts)

/-- An inquiry reads what its poll reads. -/
theorem inquire (command : Command) (wait : Milliseconds) (find : String → Option α)
    (attempts : Nat) (conclude : Option α → β) (event : β → Event) :
    Spends attempts (Procedure.inquire command wait find attempts conclude event) :=
  .after (.send _) fun _ => .after (.pause _) fun _ =>
    .before (.poll _ _) fun _ => .after (.tell _) fun _ => .pure _

end Spends

end Procedure

namespace Upload

open Procedure

/-- Settling reads no line. -/
theorem settle_spends (plan : UploadPlan) : Spends 0 (settle plan) :=
  fun _ _ => .of_always fun _ budgeted => budgeted.clear

/-- Streaming reads one line for each line of the certificate. -/
theorem streamFrom_spends (delay : Milliseconds) (total sent : Nat) (lines : List String) :
    Spends lines.length (streamFrom delay total sent lines) := by
  induction lines generalizing sent with
  | nil => exact .pure sent
  | cons line lines ih =>
    rw [List.length_cons, Nat.add_comm]
    exact .after (.send _) fun _ => .after (.pause _) fun _ =>
      .bind .readLine fun _ => .after (.advance _ _) fun _ => ih (sent + 1)

/-- The lines that an upload may read. -/
def readLimit (plan : UploadPlan) (certificate : Certificate) : Nat :=
  plan.beginAttempts + certificate.lineCount + plan.endAttempts + plan.statusAttempts

/-- A transfer reads the lines of its three phases at most. -/
theorem transfer_spends (plan : UploadPlan) (certificate : Certificate) :
    Spends (certificate.lineCount + (plan.endAttempts + plan.statusAttempts))
      (transfer plan certificate) := by
  have streams : Spends certificate.lineCount (stream plan certificate) :=
    .after (.tell _) fun _ => streamFrom_spends _ _ _ _
  unfold transfer
  rw [finish_eq, verify_eq]
  exact streams.bind fun _ => .bind (.inquire _ _ _ _ _ _) fun _ =>
    .before (.inquire _ _ _ _ _ _) fun _ => .after (.tell _) fun _ => .pure _

/-- All phases together read the lines of each at most. -/
theorem phases_spend (plan : UploadPlan) (certificate : Certificate) :
    Spends (readLimit plan certificate) (phases plan certificate) := by
  have opens : Spends plan.beginAttempts (opening plan certificate) := by
    unfold opening
    rw [begin_eq]
    exact .after (.tell _) fun _ => .after (settle_spends plan) fun _ => .inquire _ _ _ _ _ _
  have whole : plan.beginAttempts +
      (certificate.lineCount + (plan.endAttempts + plan.statusAttempts)) =
        readLimit plan certificate := by
    unfold readLimit
    omega
  rw [phases_eq, ← whole]
  apply opens.bind
  intro outcome
  cases outcome with
  | ready => exact transfer_spends plan certificate
  | refused line => exact (Spends.pure _).mono (Nat.zero_le _)
  | noResponse => exact (Spends.pure _).mono (Nat.zero_le _)

end Upload

/-- A session on a device with meters, whose lines have time to spare and are counted. -/
def Session.metered (session : Session Device) (spare : Nat) : Session (Attended Metered) :=
  { session with port := { port := { device := session.port, spare } } }

namespace Upload

open Procedure

/-- **An upload ends within its read budget.** Whatever is waiting at a device, whatever it answers
and whatever an empty queue meets, an upload reads no more lines than its attempts and the lines of
its certificate, and makes no more reads than it takes items and reads lines. Where an empty queue
does more than to interrupt, every line ends on its own: time to spare changes nothing that is told,
reported or left. An upload to a mute device makes just one read for each attempt to find the answer
to the begin marker, which is all that it sends. -/
theorem within_read_budget (plan : UploadPlan) (certificate : Certificate) :
    (∀ (session : Session Device) (spare : Nat), session.port.idle.Stops ∨ spare = 0 →
      let upload := (run plan certificate).run session
      let metered := (run plan certificate).run (session.metered spare)
      let meters := metered.2.port.port
      (metered.1 = upload.1 ∧ metered.2.log = upload.2.log ∧
        metered.2.progress = upload.2.progress ∧ meters.device = upload.2.port) ∧
      metered.2.port.lines.length ≤
        plan.beginAttempts + certificate.lineCount + plan.endAttempts + plan.statusAttempts ∧
      meters.reads ≤ meters.consumed + metered.2.port.lines.length ∧
      upload.2.port.readCount ≤ session.port.readCount + meters.reads) ∧
    ∀ session : Session Device, session.port.Mute →
      ((run plan certificate).run session).1 = .ok (.aborted .noResponse) ∧
      ((run plan certificate).run session).2.port.readCount =
        session.port.readCount + plan.beginAttempts ∧
      acceptedBytes (operations plan certificate session) = Command.begin.encode ∧
      (session.port.responder.pending = [] →
        ((run plan certificate).run session).2.port.responder.commands =
          session.port.responder.commands ++ [Command.begin.bytes]) := by
  constructor
  · intro session spare sufficient upload metered meters
    have attended := run_simulates Attended.attends_simulation plan certificate
      (session.metered spare) { session with port := { device := session.port, spare } }
      ⟨rfl, rfl, rfl⟩
    have measured := run_simulates Metered.measures_simulation plan certificate
      { session with port := { device := session.port, spare } } session
      ⟨⟨rfl, sufficient⟩, rfl, rfl⟩
    have start : (session.metered spare).port.Budgeted session.port.readCount 0 :=
      ⟨rfl, Nat.le_refl 0, Nat.le_refl 0, Nat.le_add_right _ _, sufficient⟩
    have budgeted : metered.2.port.Budgeted session.port.readCount
        (0 + readLimit plan certificate) := by
      have within := (phases_spend plan certificate session.port.readCount 0).always start
      show ((run plan certificate).run (session.metered spare)).2.port.Budgeted _ _
      rw [run_last]
      exact within.close
    have device : meters.device = upload.2.port :=
      (congrArg Metered.device attended.2.port).trans measured.2.port.1
    refine ⟨⟨attended.1.trans measured.1, attended.2.log.trans measured.2.log,
      attended.2.progress.trans measured.2.progress, device⟩, ?_, budgeted.reads, ?_⟩
    · have lines := budgeted.lines
      rwa [Nat.zero_add] at lines
    · rw [← device]
      exact budgeted.sound.counted
  · intro session mute
    obtain ⟨aborted, reads, taken⟩ := run_mute plan certificate mute
    refine ⟨aborted, reads, taken, fun idle => ?_⟩
    have plain : Command.terminator ∉ Command.begin.bytes := by decide
    have heard := session.port.responder.receive_command plain idle
    rw [Device.upload_heard, taken]
    exact congrArg (·.2.commands) heard

/-- Boot output that is discarded, a device that answers nothing, and the default attempts: a
hundred reads, each for a line of its own, and one command. -/
theorem within_read_budget_mute :
    let device : Device := { queue := [.byte 0x3E, .signal .endOfData], idle := .endOfData }
    let session : Session Device := { port := device }
    ((run {} (.ofText "a")).run session).2.port.readCount = 100 ∧
      ((run {} (.ofText "a")).run session).2.port.responder.commands = [Command.begin.bytes] ∧
      ((run {} (.ofText "a")).run (session.metered 7)).2.port.lines.length ≤ 141 := by
  intro device session
  obtain ⟨budgeted, silent⟩ := within_read_budget {} (.ofText "a")
  have mute : device.Mute := {
    writes := List.forall_mem_nil _
    writeLimit := nofun
    isOpen := rfl
    flushes := List.forall_mem_nil _
    clears := List.forall_mem_nil _
    closes := List.forall_mem_nil _
    idle := trivial
    replies := fun kind => by cases kind <;> exact List.forall_mem_nil _ }
  have stops : device.idle.Stops := Signal.Silent.stops trivial
  obtain ⟨-, reads, -, commands⟩ := silent session mute
  exact ⟨reads, commands rfl, (budgeted session 7 (.inl stops)).2.1⟩

end Upload

end CertConsole
