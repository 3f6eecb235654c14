import CertConsole.Proofs.CutLines
import CertConsole.Proofs.Handover
import CertConsole.Proofs.StreamProgress
import CertConsole.Proofs.Upkeep
import CertConsole.Proofs.Validation

/-!
# A timeout of zero

With a timeout of zero a line is over after one read, so it has one character at most
(`readLine_short`). No phrase is that short, and no line goes on where another one ended: whatever
the far end sends and however often it is read, nothing of it is an answer. An upload gives up after
the begin marker and confirms nothing (`confirms_nothing`), which is why settings with such a
timeout are refused before a port is opened.
-/
namespace CertConsole

namespace Utf8

/-- A byte completes one character at most. -/
theorem length_decodeFrom_le (state : State) (bytes : List UInt8) :
    (decodeFrom state bytes).length ≤ bytes.length := by
  induction bytes generalizing state with
  | nil => exact Nat.le_refl 0
  | cons byte bytes ih =>
    have later := ih (state.step byte.toNat).state
    have one : (state.step byte.toNat).char.toList.length ≤ 1 := by
      cases (state.step byte.toNat).char with
      | none => exact Nat.zero_le 1
      | some char => exact Nat.le_refl 1
    rw [decodeFrom, List.length_append, List.length_cons]
    omega

end Utf8

namespace Text

/-- A text does not mention a phrase that is longer than the text. -/
theorem mentions_short {line phrase : String}
    (short : line.toList.length < phrase.toList.length) : mentions line phrase = false := by
  rw [Bool.eq_false_iff]
  intro mentioned
  have within : phrase.toList <:+: line.toList := (occurs_iff _ _).mp mentioned
  exact absurd within.length_le (Nat.not_le.mpr short)

end Text

namespace Reply

open Text

/-- A line has no more characters than bytes. -/
theorem length_decodeLine_le (bytes : List UInt8) :
    (decodeLine bytes).toList.length ≤ bytes.length := by
  have kept := decodeLine_within [] bytes []
  rw [List.nil_append, List.append_nil] at kept
  calc
    (decodeLine bytes).toList.length ≤ (Utf8.decodeLossy bytes).length := kept.length_le
    _ ≤ bytes.length := Utf8.length_decodeFrom_le .start bytes

/-- A line with no more than one character. -/
def Short (line : String) : Prop := line.toList.length ≤ 1

/-- A short line mentions no phrase of more than one character. -/
theorem Short.not_mentions {line phrase : String} (short : Short line)
    (long : 1 < phrase.toList.length) : mentions line phrase = false :=
  mentions_short (Nat.lt_of_le_of_lt short long)

/-- A short line is no answer to the begin marker. -/
theorem Short.beginAnswer? {line : String} (short : Short line) :
    Upload.beginAnswer? line = none := by
  have accepts : acceptsUpload line = false := short.not_mentions (by decide)
  have refuses : refusesUpload line = false := by
    unfold refusesUpload
    rw [short.not_mentions (by decide : 1 < "Error".toList.length),
      short.not_mentions (by decide : 1 < "error".toList.length)]
    rfl
  rw [Upload.beginAnswer?, accepts, refuses]
  rfl

/-- A short line does not confirm a save. -/
theorem Short.saveConfirmed? {line : String} (short : Short line) :
    Upload.saveConfirmed? line = none := by
  have silent : confirmsSave line = false := short.not_mentions (by decide)
  rw [Upload.saveConfirmed?, silent]
  rfl

/-- A short line has no CA field. -/
theorem Short.caField? {line : String} (short : Short line) : Reply.caField? line = none := by
  rw [Reply.caField?, short.not_mentions (by decide)]
  rfl

end Reply

namespace Port

variable {σ : Type} [Port σ]

/-- A read adds one byte to a line at most. -/
theorem verdict_length {found : ReadResult} {bytes : List UInt8}
    (judged : verdict found = .ends bytes ∨ verdict found = .continues bytes) :
    bytes.length ≤ 1 := by
  rcases judged with ends | continues
  · rcases verdict_ends ends with rfl | rfl
    · exact Nat.zero_le 1
    · exact Nat.le_refl 1
  · cases found with
    | byte byte =>
      by_cases last : byte = lineFeed <;> simp only [verdict, last, ↓reduceIte] at continues <;>
        cases continues
      exact Nat.le_refl 1
    | nothing => cases continues
    | failed error =>
      by_cases interrupted : error.kind = .interrupted
      · simp only [verdict, interrupted, ↓reduceIte, Verdict.continues.injEq] at continues
        rw [← continues]
        exact Nat.zero_le 1
      · by_cases silent : error.isSilence = true <;>
          simp [verdict, interrupted, silent] at continues

/-- A line that there is no time for is one read. -/
theorem readLine_impatient {port : σ} (impatient : patience port = 0) :
    (readLine port).2 = (read port).2 := by
  rw [readLine_eq, impatient, collectLine_zero]
  cases verdict (read port).1 <;> rfl

/-- A line that there is no time for is short. -/
theorem readLine_short {port : σ} (impatient : patience port = 0) {line : String}
    (found : (readLine port).1 = .ok line) : Reply.Short line := by
  have decoded {bytes : List UInt8} (few : bytes.length ≤ 1) :
      Reply.Short (Reply.decodeLine bytes) :=
    Nat.le_trans (Reply.length_decodeLine_le bytes) few
  rw [readLine_eq, impatient, collectLine_zero] at found
  cases judged : verdict (read port).1 with
  | ends bytes =>
    simp only [judged] at found
    cases found
    exact decoded (verdict_length (.inl judged))
  | continues bytes =>
    simp only [judged] at found
    cases found
    exact decoded (verdict_length (.inr judged))
  | fails error =>
    simp only [judged] at found
    cases found

/-- A property that every operation keeps, of ports that have no time for a second read. -/
structure Impatient (holds : σ → Prop) : Prop extends Port.Stable holds where
  /-- A line is over after its first read. -/
  patience : ∀ {port}, holds port → Port.patience port = 0

/-- A recorded port has no time where the port has none. -/
theorem Impatient.recorded {holds : σ → Prop} (impatient : Impatient holds) :
    Impatient fun record : Recorded σ => holds record.port where
  read held := impatient.read held
  write bytes _ held := impatient.write bytes held
  flush held := impatient.flush held
  clear held := impatient.clear held
  close held := impatient.close held
  pause span _ held := impatient.pause span held
  patience held := impatient.patience held

end Port

namespace Device

/-- What an operation that is no read leaves as it is. -/
structure Unread (before after : Device) : Prop where
  timeout : after.timeout = before.timeout
  idle : after.idle = before.idle
  readCount : after.readCount = before.readCount

theorem write_unread (bytes : List UInt8) (device : Device) :
    Unread device (Port.write bytes device).2 := by
  obtain ⟨rules, took⟩ := write_took bytes device
  rw [took]
  exact ⟨rfl, rfl, rfl⟩

theorem flush_unread (device : Device) : Unread device (Port.flush device).2 := by
  cases closed : device.isClosed with
  | true =>
    rw [flush_closed closed]
    exact ⟨rfl, rfl, rfl⟩
  | false =>
    rw [flush_open closed]
    exact ⟨rfl, rfl, rfl⟩

theorem clear_unread (device : Device) : Unread device (Port.clear device).2 := by
  cases closed : device.isClosed with
  | true =>
    rw [clear_closed closed]
    exact ⟨rfl, rfl, rfl⟩
  | false =>
    rw [clear_open closed]
    cases outcome device.clears <;> exact ⟨rfl, rfl, rfl⟩

theorem close_unread (device : Device) : Unread device (Port.close device).2 := ⟨rfl, rfl, rfl⟩

/-- A read of a device leaves a queue and counts. -/
theorem read_left (device : Device) :
    ∃ queue reads, (Port.read device).2 = device.left queue reads ∧
      reads ≤ device.readCount + 1 := by
  cases closed : device.isClosed with
  | true =>
    rw [read_closed closed]
    exact ⟨device.queue, device.readCount, rfl, Nat.le_succ _⟩
  | false =>
    cases waiting : device.queue with
    | nil =>
      rw [read_nil closed waiting]
      exact ⟨[], _, rfl, Nat.le_refl _⟩
    | cons item rest =>
      rw [read_cons closed waiting]
      exact ⟨rest, _, rfl, Nat.le_refl _⟩

/-- No operation of a device changes how long a line is waited for, or what an empty queue meets. -/
theorem waiting_stable (timeout : Milliseconds) (idle : Signal) :
    Port.Stable fun device : Device => device.timeout = timeout ∧ device.idle = idle where
  read {device} held := by
    obtain ⟨queue, reads, left, -⟩ := device.read_left
    rwa [left]
  write bytes device held := by
    have unread := write_unread bytes device
    rwa [unread.timeout, unread.idle]
  flush {device} held := by rwa [(flush_unread device).timeout, (flush_unread device).idle]
  clear {device} held := by rwa [(clear_unread device).timeout, (clear_unread device).idle]
  close held := held
  pause _ _ held := held

/-- A device with a timeout of zero has no time for a second read. -/
theorem impatient : Port.Impatient fun device : Device => device.timeout = 0 where
  read {device} zero := ((waiting_stable 0 device.idle).read ⟨zero, rfl⟩).1
  write bytes {device} zero := ((waiting_stable 0 device.idle).write bytes ⟨zero, rfl⟩).1
  flush {device} zero := ((waiting_stable 0 device.idle).flush ⟨zero, rfl⟩).1
  clear {device} zero := ((waiting_stable 0 device.idle).clear ⟨zero, rfl⟩).1
  close zero := zero
  pause _ _ zero := zero
  patience zero := if_pos zero

/-- A read takes the first item of the queue, if there is one and the device is open. -/
theorem read_queue (device : Device) :
    (Port.read device).2.queue = if device.isClosed then device.queue else device.queue.tail := by
  cases closed : device.isClosed with
  | true => rw [read_closed closed, if_pos rfl]
  | false =>
    cases waiting : device.queue with
    | nil => rw [read_nil closed waiting]; rfl
    | cons item rest => rw [read_cons closed waiting]; rfl

end Device

/-- A serial line with a timeout of zero has no time for a second read. -/
theorem SerialLine.impatient :
    Port.Impatient fun line : SerialLine => line.device.timeout = 0 where
  read held := Device.impatient.read held
  write bytes _ held := Device.impatient.write bytes held
  flush held := Device.impatient.flush held
  clear held := Device.impatient.clear held
  close held := Device.impatient.close held
  pause span _ held := Device.impatient.pause span held
  patience held := Device.impatient.patience held

namespace Procedure

variable {σ α β : Type}

/-- A procedure keeps a property of the session whatever comes of it, and a value that it has is one
of the given. -/
def Yields (held : Session σ → Prop) (given : α → Prop) (procedure : Procedure σ α) : Prop :=
  Upholds held procedure (fun value session => given value ∧ held session) fun _ => held

namespace Yields

variable {held : Session σ → Prop} {given : α → Prop} {wanted : β → Prop}

theorem pure {value : α} (fits : given value) : Yields held given (Pure.pure value) :=
  Upholds.pure fun _ kept => ⟨fits, kept⟩

/-- The second step is judged for the values that the first one gives. -/
theorem bind {first : Procedure σ α} {next : α → Procedure σ β} (head : Yields held given first)
    (tail : ∀ value, given value → Yields held wanted (next value)) :
    Yields held wanted (first >>= next) :=
  Upholds.bind head fun value session both => tail value both.1 session both.2

/-- A step whose value does not matter may come first. -/
theorem after {first : Procedure σ α} {next : α → Procedure σ β}
    (head : ∀ session, held session → held (first.run session).2)
    (tail : ∀ value, Yields held wanted (next value)) : Yields held wanted (first >>= next) :=
  Upholds.bind (.of_always head) tail

/-- The property is kept. -/
theorem kept {procedure : Procedure σ α} (yields : Yields held given procedure)
    {session : Session σ} (kept : held session) : held (procedure.run session).2 :=
  (Upholds.imply yields fun _ _ both => both.2).always kept

/-- A value is one of the given. -/
theorem fits {procedure : Procedure σ α} (yields : Yields held given procedure)
    {session : Session σ} (kept : held session) {value : α}
    (done : (procedure.run session).1 = .ok value) : given value :=
  (Upholds.value yields kept done).1

end Yields

variable [Port σ]

/-- A property of sessions that the steps of an upload keep, as long as they send some commands
only, and with which there is no time for a second read. -/
structure Hurried (sendable : Command → Prop) (held : Session σ → Prop) : Prop where
  /-- A line is over after its first read. -/
  patience : ∀ session, held session → Port.patience session.port = 0
  /-- Telling keeps it. -/
  tell : ∀ events session, held session → held ((tell events).run session).2
  /-- Letting time pass keeps it. -/
  pause : ∀ span session, held session → held ((pause span).run session).2
  /-- Sending one of the commands keeps it. -/
  send : ∀ command, sendable command →
    ∀ session, held session → held ((send command).run session).2
  /-- Reading a line keeps it. -/
  readLine : ∀ session, held session → held (readLine.run session).2
  /-- Discarding input keeps it. -/
  clearInput : ∀ session, held session → held (clearInput.run session).2

namespace Hurried

variable {sendable : Command → Prop} {held : Session σ → Prop} (hurried : Hurried sendable held)
include hurried

/-- A line that is read is short. -/
theorem readLine_yields : Yields held Reply.Short Procedure.readLine := by
  intro session kept
  have after := hurried.readLine session kept
  rcases found : (Port.readLine session.port).1 with error | line
  · rw [run_readLine_error found] at after ⊢
    exact after
  · rw [run_readLine_ok found] at after ⊢
    exact ⟨Port.readLine_short (hurried.patience session kept) found, after⟩

/-- A poll for what no short line has finds nothing, however often it may read. -/
theorem poll_yields {find : String → Option α} (blind : ∀ line, Reply.Short line → find line = none)
    (attempts : Nat) : Yields held (· = none) (poll find attempts) := by
  induction attempts with
  | zero => exact .pure rfl
  | succ attempts ih =>
    rw [poll_succ]
    refine .bind hurried.readLine_yields fun line short => ?_
    have unanswered : answerIn find line = none := by
      rw [answerIn, blind line short, ite_self]
    rw [unanswered]
    exact ih

/-- An inquiry for what no short line has comes to what nothing comes to. -/
theorem inquire_yields {command : Command} (own : sendable command) (wait : Milliseconds)
    {find : String → Option α} (blind : ∀ line, Reply.Short line → find line = none)
    (attempts : Nat) (conclude : Option α → β) (event : β → Event) :
    Yields held (· = conclude none) (inquire command wait find attempts conclude event) := by
  apply Yields.after (hurried.send command own)
  intro _
  apply Yields.after (hurried.pause wait)
  intro _
  apply Yields.bind (hurried.poll_yields blind attempts)
  intro found nothing
  rw [nothing]
  exact .after (hurried.tell _) fun _ => .pure rfl

end Hurried

end Procedure

namespace Upload

open Procedure

variable {σ : Type} [Port σ]

section Phases

variable {sendable : Command → Prop} {held : Session σ → Prop} (hurried : Hurried sendable held)
include hurried

/-- The begin marker is not answered. -/
theorem begin_hurried (own : sendable .begin) (plan : UploadPlan) :
    Yields held (· = .noResponse) (begin plan) := by
  rw [begin_eq]
  exact hurried.inquire_yields own _ (fun _ short => short.beginAnswer?) _ _ _

/-- The save is not confirmed. -/
theorem finish_hurried (own : sendable .finish) (plan : UploadPlan) :
    Yields held (· = false) (finish plan) := by
  rw [finish_eq]
  exact hurried.inquire_yields own _ (fun _ short => short.saveConfirmed?) _ _ _

/-- No CA status is reported. -/
theorem verify_hurried (own : sendable .status) (plan : UploadPlan) :
    Yields held (· = .notReported) (verify plan) := by
  rw [verify_eq]
  exact hurried.inquire_yields own _ (fun _ short => short.caField?) _ _ _

/-- Settling keeps the property. -/
theorem settle_hurried (plan : UploadPlan) (session : Session σ) (kept : held session) :
    held ((settle plan).run session).2 := by
  have told := hurried.tell [.settling (Port.name session.port)] session kept
  rw [run_settle]
  exact hurried.clearInput _ (hurried.pause plan.settleDelay _ told)

/-- The phases up to the answer to the begin marker end without one. -/
theorem opening_hurried (own : sendable .begin) (plan : UploadPlan) (certificate : Certificate) :
    Yields held (· = .noResponse) (opening plan certificate) :=
  .after (hurried.tell _) fun _ => .after (settle_hurried hurried plan) fun _ =>
    begin_hurried hurried own plan

/-- All phases end with the report of an upload that was not answered. -/
theorem phases_hurried (own : sendable .begin) (plan : UploadPlan) (certificate : Certificate) :
    Yields held (· = .aborted .noResponse) (phases plan certificate) := by
  rw [phases_eq]
  apply Yields.bind (opening_hurried hurried own plan certificate)
  intro outcome unanswered
  rw [unanswered]
  exact .pure rfl

end Phases

end Upload

namespace Port.Impatient

open Procedure

variable {σ : Type} [Port σ] {holds : σ → Prop} (impatient : Port.Impatient holds)
include impatient

/-- Whatever is sent, a port without time stays one. -/
theorem hurried : Hurried (fun _ => True) fun session : Session σ => holds session.port where
  patience _ kept := impatient.patience kept
  tell _ _ kept := kept
  pause span _ kept := impatient.pause span kept
  send command _ _ kept :=
    Port.deliver_keeps impatient.write impatient.flush command.encode kept
  readLine session kept := by
    rw [readLine_port]
    exact Port.readLine_keeps impatient.read kept
  clearInput _ kept := impatient.clear kept

end Port.Impatient

/-- Every write is offered one of the commands, or the end of one. -/
def Offers (sendable : Command → Prop) (operations : List Operation) : Prop :=
  ∀ part result, .write part result ∈ operations →
    ∃ command, sendable command ∧ part <:+ command.encode

namespace Offers

variable {sendable : Command → Prop} {operations later : List Operation}

theorem nil : Offers sendable [] := fun _ _ inside => absurd inside List.not_mem_nil

/-- Operations on end offer what each of them offers. -/
theorem append (early : Offers sendable operations) (late : Offers sendable later) :
    Offers sendable (operations ++ later) := by
  intro part result inside
  rcases List.mem_append.mp inside with here | there
  · exact early part result here
  · exact late part result there

/-- An operation that is no write offers nothing. -/
theorem concat (offers : Offers sendable operations) {operation : Operation}
    (other : ∀ part result, operation ≠ .write part result) :
    Offers sendable (operations ++ [operation]) := by
  apply offers.append
  intro part result inside
  exact absurd (List.mem_singleton.mp inside).symm (other part result)

/-- What hands a command over offers the command and then what is left of it. -/
theorem of_handedOver {command : Command} (own : sendable command)
    {result : Except ChannelError Unit}
    (handed : HandedOver command.encode operations result) : Offers sendable operations := by
  intro part outcome inside
  obtain ⟨before, after, cut⟩ := List.append_of_mem inside
  exact ⟨command, own, acceptedBytes before, (handed.offered cut).2⟩

end Offers

namespace Recorded

variable {σ : Type} [Port σ] {sendable : Command → Prop} {record : Recorded σ}

/-- Delivering a command offers the command. -/
theorem deliver_offers (offers : Offers sendable record.operations) {command : Command}
    (own : sendable command) :
    Offers sendable (Port.deliver command.encode record).2.operations := by
  obtain ⟨operations, entered, handed⟩ := deliver_handedOver command.encode record
  rw [entered]
  exact offers.append (.of_handedOver own handed)

/-- Reading a line offers nothing. -/
theorem readLine_offers (offers : Offers sendable record.operations) :
    Offers sendable (Port.readLine record).2.operations := by
  let offering (record : Recorded σ) : Prop := Offers sendable record.operations
  have read {record : Recorded σ} (offers : offering record) : offering (Port.read record).2 :=
    Offers.concat offers nofun
  have kept : offering (Port.readLine record).2 := Port.readLine_keeps read offers
  exact kept

end Recorded

namespace Port.Impatient

open Procedure

variable {σ : Type} [Port σ] {holds : σ → Prop} (impatient : Port.Impatient holds)
include impatient

/-- A recorded port without time stays one, and is offered the commands that are sent. -/
theorem hurried_recorded (sendable : Command → Prop) :
    Hurried sendable fun session : Session (Recorded σ) =>
      holds session.port.port ∧ Offers sendable session.port.operations where
  patience session kept := impatient.patience kept.1
  tell _ _ kept := kept
  pause span _ kept := ⟨impatient.pause span kept.1, kept.2⟩
  send command own session kept :=
    ⟨impatient.recorded.hurried.send command trivial session kept.1,
      Recorded.deliver_offers kept.2 own⟩
  readLine session kept := by
    refine ⟨impatient.recorded.hurried.readLine session kept.1, ?_⟩
    rw [readLine_port]
    exact Recorded.readLine_offers kept.2
  clearInput session kept := ⟨impatient.clear kept.1, kept.2.concat nofun⟩

end Port.Impatient

namespace Upload

open Procedure

variable {σ : Type} [Port σ]

/-- What comes of the phases of an upload, and of a whole one, if nothing is ever confirmed. -/
structure Fruitless (plan : UploadPlan) (certificate : Certificate) (session : Session σ) :
    Prop where
  /-- The begin marker is not answered. -/
  begin : ∀ outcome, ((begin plan).run session).1 = .ok outcome → outcome = .noResponse
  /-- The save is not confirmed. -/
  finish : ∀ saved, ((finish plan).run session).1 = .ok saved → saved = false
  /-- No CA status is reported. -/
  verify : ∀ status, ((verify plan).run session).1 = .ok status → status = .notReported
  /-- An upload that has a report was not answered and did not succeed. -/
  report : ∀ report, ((run plan certificate).run session).1 = .ok report →
    report = .aborted .noResponse ∧ report.success = false
  /-- An upload offers the begin marker, or the end of it, and nothing else. -/
  offered : ∀ part result, .write part result ∈ operations plan certificate session →
    part <:+ Command.begin.encode
  /-- A port takes the begin marker from an upload, or its front, and nothing else. -/
  accepted : acceptedBytes (operations plan certificate session) <+: Command.begin.encode
  /-- No certificate line is reported as sent. -/
  progress : ((run plan certificate).run session).2.progress = session.progress

/-- **An upload over a port that has no time is fruitless.** -/
theorem fruitless_impatient {holds : σ → Prop} (impatient : Port.Impatient holds)
    (plan : UploadPlan) (certificate : Certificate) {session : Session σ}
    (kept : holds session.port) : Fruitless plan certificate session := by
  have hurried : Hurried (fun _ => True) fun session : Session σ => holds session.port :=
    impatient.hurried
  have hurried' := impatient.hurried_recorded (· = .begin)
  have start : holds session.recording.port.port ∧
      Offers (· = .begin) session.recording.port.operations := ⟨kept, .nil⟩
  have unopened : ((opening plan certificate).run session).1 ≠ .ok .ready := by
    intro ready
    cases (opening_hurried hurried trivial plan certificate).fits kept ready
  have unopened' : ((opening plan certificate).run session.recording).1 ≠ .ok .ready := by
    intro ready
    cases (opening_hurried hurried' rfl plan certificate).fits start ready
  constructor
  case begin => exact fun _ done => (begin_hurried hurried trivial plan).fits kept done
  case finish => exact fun _ done => (finish_hurried hurried trivial plan).fits kept done
  case verify => exact fun _ done => (verify_hurried hurried trivial plan).fits kept done
  case report =>
    intro report done
    have aborted : report = .aborted .noResponse :=
      (phases_hurried hurried trivial plan certificate).fits kept (run_reports done).1
    rw [aborted]
    exact ⟨rfl, rfl⟩
  case offered =>
    intro part result inside
    have offers : Offers (· = .begin) (phaseOperations plan certificate session) :=
      ((phases_hurried hurried' rfl plan certificate).kept start).2
    have all : Offers (· = .begin) (operations plan certificate session) := by
      rw [operations_eq]
      exact offers.concat nofun
    obtain ⟨command, own, ends⟩ := all part result inside
    rwa [own] at ends
  case accepted =>
    obtain ⟨operations, entered, orderly⟩ := opening_sends plan certificate session.recording
    have all : phaseOperations plan certificate session = operations := by
      rw [phaseOperations, phases_unopened unopened']
      exact entered
    rw [acceptedBytes_operations, all]
    exact orderly.accepts
  case progress => exact run_progress_unopened unopened

/-- A device from which nothing but the begin marker is taken receives the begin marker, or no
command. -/
theorem Fruitless.received {plan : UploadPlan} {certificate : Certificate}
    {session : Session Device} (fruitless : Fruitless plan certificate session)
    (idle : session.port.responder.pending = []) :
    ∃ seen, seen <+: [Command.begin.bytes] ∧
      ((run plan certificate).run session).2.port.responder.commands =
        session.port.responder.commands ++ seen := by
  have plain : ∀ command ∈ [Command.begin.bytes], Command.terminator ∉ command := by decide
  rw [Device.upload_heard]
  exact session.port.responder.receive_cut plain fruitless.accepted idle

/-- **A timeout of zero confirms nothing.** Whatever is waiting at a device with such a timeout and
whatever it answers, a line read is one read of it: it takes one item of the queue at most, and the
line has one character at most. So however often they may read, the begin marker stays unanswered,
the save unconfirmed and the status unreported, and an upload sends nothing but the begin marker and
does not succeed. The same is true of a serial line to such a device. A job with a timeout of zero
is refused, and no port is opened for it. -/
theorem confirms_nothing (plan : UploadPlan) (certificate : Certificate) :
    (∀ session : Session Device, session.port.timeout = 0 →
      Fruitless plan certificate session ∧
      (session.port.responder.pending = [] → ∃ seen, seen <+: [Command.begin.bytes] ∧
        ((run plan certificate).run session).2.port.responder.commands =
          session.port.responder.commands ++ seen)) ∧
    (∀ session : Session SerialLine, session.port.device.timeout = 0 →
      Fruitless plan certificate session) ∧
    (∀ device : Device, device.timeout = 0 →
      (Port.readLine device).2 = (Port.read device).2 ∧
      ((Port.readLine device).2.queue = device.queue ∨
        (Port.readLine device).2.queue = device.queue.tail) ∧
      ∀ line, (Port.readLine device).1 = .ok line → line.toList.length ≤ 1) ∧
    ∀ {σ : Type} [Port σ] (openPort : SerialSettings → Except OpenError σ) (job : UploadJob),
      job.serial.timeout = 0 → ∃ cause,
        job.serial.check = .error cause ∧
        job.perform openPort = { result := .error (.config cause) } := by
  refine ⟨?_, ?_, ?_, ?_⟩
  · intro session zero
    have fruitless := fruitless_impatient Device.impatient plan certificate zero
    exact ⟨fruitless, fruitless.received⟩
  · intro session zero
    exact fruitless_impatient SerialLine.impatient plan certificate zero
  · intro device zero
    have impatient : Port.patience device = 0 := Device.impatient.patience zero
    have once := Port.readLine_impatient impatient
    refine ⟨once, ?_, fun line found => Port.readLine_short impatient found⟩
    rw [once, Device.read_queue]
    cases device.isClosed with
    | true => exact .inl rfl
    | false => exact .inr rfl
  · intro σ _ openPort job zero
    have unusable : ∃ setting ∈ job.serial.judged, setting.1 = 0 :=
      ⟨(job.serial.timeout, .zeroTimeout), by simp [SerialSettings.judged], zero⟩
    obtain ⟨cause, first⟩ := (exists_firstZero_iff job.serial.judged).mpr unusable
    have refused : job.serial.check = .error cause := by
      rw [SerialSettings.check_eq]
      exact (verdict_error_iff _ _).mpr first
    refine ⟨cause, refused, ?_⟩
    have unfit : job.check = .error cause := by
      rw [UploadJob.check, refused]
      rfl
    rw [UploadJob.perform, unfit]

/-- A device that accepts the begin marker at once is read a character at a time, so it stays
unanswered however often it may be read. -/
theorem confirms_nothing_ready :
    let device : Device := {
      timeout := 0
      responder := { beginReplies := [(Utf8.encode "ready to receive\n".toList).map .byte] } }
    let session : Session Device := { port := device }
    ((run {} (.ofText "a")).run session).1 = .ok (.aborted .noResponse) ∧
      acceptedBytes (operations {} (.ofText "a") session) <+: Command.begin.encode ∧
      ((run {} (.ofText "a")).run session).2.progress = [] := by
  intro device session
  have fruitless := ((confirms_nothing {} (.ofText "a")).1 session rfl).1
  have reports : ((run {} (.ofText "a")).run session).1.isOk = true := by decide +kernel
  refine ⟨?_, fruitless.accepted, fruitless.progress⟩
  cases outcome : ((run {} (.ofText "a")).run session).1 with
  | error error =>
    rw [outcome] at reports
    cases reports
  | ok report => rw [(fruitless.report report outcome).1]

end Upload

end CertConsole
