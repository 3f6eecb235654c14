import CertConsole.Proofs.Closing
import CertConsole.Proofs.Dependable
import CertConsole.Proofs.Upkeep

/-!
# Mute devices

A device none of whose calls fails and whose far end does not answer. Once its input was discarded
nothing arrives, so each line that is read is empty and costs one read (`Still.readLine`), and an
upload gives up when its attempts to find the answer to the begin marker are used up (`run_mute`).
-/
namespace CertConsole

/-- An open device none of whose calls fails, with a far end that does not answer. -/
structure Device.Mute (device : Device) : Prop extends Device.Accepting device where
  /-- It is open. -/
  isOpen : device.isClosed = false
  /-- No flush fails. -/
  flushes : ∀ error ∈ device.flushes, error = none
  /-- Input can always be discarded. -/
  clears : ∀ error ∈ device.clears, error = none
  /-- The device can always be closed. -/
  closes : ∀ error ∈ device.closes, error = none
  /-- An empty queue is silence. -/
  idle : device.idle.Silent
  /-- The far end has no answer. -/
  replies : ∀ kind, ∀ reply ∈ device.responder.replies kind, reply = []

namespace Responder

/-- A far end without answers answers nothing that arrives. -/
theorem receive_mute {responder : Responder}
    (mute : ∀ kind, ∀ reply ∈ responder.replies kind, reply = []) (bytes : List UInt8) :
    (responder.receive bytes).1 = [] := by
  have silent {responder : Responder}
      (mute : ∀ kind, ∀ reply ∈ responder.replies kind, reply = []) (byte : UInt8) :
      (responder.receiveByte byte).1 = [] := by
    unfold receiveByte
    split
    · exact (responder.answer_mem _).elim (mute _ _) id
    · rfl
  induction bytes generalizing responder with
  | nil => rfl
  | cons byte bytes ih =>
    have later : ∀ kind, ∀ reply ∈ (responder.receiveByte byte).2.replies kind, reply = [] := by
      intro kind
      rw [receiveByte_replies]
      exact mute kind
    rw [receive_cons, silent mute byte, ih later, List.append_nil]

end Responder

namespace Device

variable {device : Device}

/-- A silent line is read with one read where nothing is waiting. -/
theorem readLine_drained (opened : device.isClosed = false) (drained : device.queue = [])
    (silent : device.idle.Silent) :
    Port.readLine device = (.ok "", device.left [] (device.readCount + 1)) := by
  have impatient : Port.patience device = 0 := by
    show (if device.timeout = 0 then 0 else device.queue.length) = 0
    rw [drained, List.length_nil, ite_self]
  rw [Port.readLine_eq, impatient, Port.collectLine_zero, read_nil opened drained,
    silent.verdict_ends]
  rfl

/-- A mute device that nothing is waiting at, after that many reads. -/
structure Still (reads : Nat) (device : Device) : Prop where
  mute : device.Mute
  drained : device.queue = []
  counted : device.readCount = reads

/-- A mute device has its input discarded. -/
theorem Mute.clear (mute : device.Mute) :
    (Port.clear device).1 = .ok () ∧ (Port.clear device).2.Still device.readCount := by
  rw [clear_open mute.isOpen, outcome_ok mute.clears]
  refine ⟨rfl, ?_, rfl, rfl⟩
  exact { mute with clears := fun error inside => mute.clears error (List.mem_of_mem_tail inside) }

/-- A mute device takes a buffer to its end, and nothing arrives. -/
theorem Still.deliver {reads : Nat} (still : device.Still reads) (bytes : List UInt8) :
    (Port.deliver bytes device).1 = .ok () ∧ (Port.deliver bytes device).2.Still reads := by
  obtain ⟨rules, benign, written⟩ := still.mute.writeAll_eq bytes still.mute.isOpen
  have opened : (device.took bytes rules).isClosed = false := still.mute.isOpen
  have flushed : outcome (device.took bytes rules).flushes = .ok () := outcome_ok still.mute.flushes
  rw [Port.deliver_eq, written]
  show (Port.flush (device.took bytes rules)).1 = .ok () ∧
    (Port.flush (device.took bytes rules)).2.Still reads
  rw [flush_open opened, flushed]
  refine ⟨rfl, ?_, ?_, still.counted⟩
  · exact { still.mute with
      writes := benign
      flushes := fun error inside => still.mute.flushes error (List.mem_of_mem_tail inside)
      replies := fun kind reply inside => still.mute.replies kind reply
        ((device.responder.receive_replies bytes kind).subst inside) }
  · show device.queue ++ (device.responder.receive bytes).1 = []
    rw [still.drained, Responder.receive_mute still.mute.replies, List.append_nil]

/-- A line of a mute device is empty and costs one read. -/
theorem Still.readLine {reads : Nat} (still : device.Still reads) :
    (Port.readLine device).1 = .ok "" ∧ (Port.readLine device).2.Still (reads + 1) := by
  rw [readLine_drained still.mute.isOpen still.drained still.mute.idle]
  exact ⟨rfl, { still.mute with }, rfl, congrArg (· + 1) still.counted⟩

end Device

/-- A session on a mute device of which that many reads were made. -/
def Session.Mute (reads : Nat) (session : Session Device) : Prop :=
  session.port.Mute ∧ session.port.readCount = reads

namespace Procedure

variable {α β : Type}

/-- At a mute device that nothing is waiting at a procedure has that value and makes that many
reads. -/
def Waits (reads : Nat) (value : α) (procedure : Procedure Device α) : Prop :=
  ∀ count, Upholds (fun session => session.port.Still count) procedure
    (fun found session => found = value ∧ session.port.Still (count + reads)) fun _ _ => False

namespace Waits

variable {first second : Nat} {procedure : Procedure Device α} {next : α → Procedure Device β}
  {value : α} {last : β}

theorem pure (value : α) : Waits 0 value (Pure.pure value) :=
  fun _ => Upholds.pure fun _ still => ⟨rfl, still⟩

/-- The reads of two steps are added. -/
theorem bind (head : Waits first value procedure) (tail : Waits second last (next value)) :
    Waits (first + second) last (procedure >>= next) := by
  intro count
  apply (head count).bind
  intro found session left
  rw [left.1, ← Nat.add_assoc]
  exact tail (count + first) session left.2

/-- A step without a read may come first. -/
theorem after (head : Waits 0 value procedure) (tail : Waits second last (next value)) :
    Waits second last (procedure >>= next) := by
  rw [← Nat.zero_add second]
  exact head.bind tail

/-- A step without a read may come last. -/
theorem before (head : Waits first value procedure) (tail : Waits 0 last (next value)) :
    Waits first last (procedure >>= next) :=
  head.bind tail

theorem tell (events : List Event) : Waits 0 () (Procedure.tell events) :=
  fun _ _ still => ⟨rfl, still⟩

theorem pause (span : Milliseconds) : Waits 0 () (Procedure.pause span) :=
  fun _ _ still => ⟨rfl, still⟩

theorem send (command : Command) : Waits 0 () (Procedure.send command) := by
  intro count session still
  obtain ⟨done, after⟩ := still.deliver command.encode
  rw [run_send, done]
  exact ⟨rfl, after⟩

theorem readLine : Waits 1 "" Procedure.readLine := by
  intro count session still
  obtain ⟨done, after⟩ := still.readLine
  rw [run_readLine_ok done]
  exact ⟨rfl, after⟩

/-- A poll makes one read for each attempt and finds nothing. -/
theorem poll (find : String → Option α) (attempts : Nat) :
    Waits attempts none (Procedure.poll find attempts) := by
  induction attempts with
  | zero => exact .pure none
  | succ attempts ih =>
    rw [poll_succ, Nat.add_comm]
    exact .bind .readLine ih

/-- An inquiry comes to what nothing comes to. -/
theorem inquire (command : Command) (wait : Milliseconds) (find : String → Option α)
    (attempts : Nat) (conclude : Option α → β) (event : β → Event) :
    Waits attempts (conclude none)
      (Procedure.inquire command wait find attempts conclude event) := by
  refine .after (.send command) (.after (.pause wait) (.before (.poll find attempts) ?_))
  exact .after (.tell _) (.pure _)

end Waits

end Procedure

namespace Upload

open Procedure

/-- Settling leaves nothing waiting at a mute device. -/
theorem settle_mute (plan : UploadPlan) (count : Nat) :
    Upholds (Session.Mute count) (settle plan) (fun _ session => session.port.Still count)
      fun _ _ => False := by
  intro session start
  obtain ⟨emptied, still⟩ := start.1.clear
  rw [start.2] at still
  have done : ((settle plan).run session).1 = .ok () := emptied
  have after : ((settle plan).run session).2.port.Still count := still
  rcases outcome : (settle plan).run session with ⟨error | ⟨⟩, last⟩ <;> rw [outcome] at done after
  · cases done
  · exact after

/-- The phases of an upload to a mute device make one read for each attempt to find the answer to
the begin marker, and no other. -/
theorem phases_mute (plan : UploadPlan) (certificate : Certificate) (count : Nat) :
    Upholds (Session.Mute count) (phases plan certificate) (fun report session =>
        report = .aborted .noResponse ∧ session.port.Still (count + plan.beginAttempts))
      fun _ _ => False := by
  have begins : Waits plan.beginAttempts .noResponse (begin plan) := by
    rw [begin_eq]
    exact .inquire _ _ _ _ _ _
  have warns : Upholds (Session.Mute count) (warnOfSize certificate)
      (fun _ => Session.Mute count) fun _ _ => False := fun _ start => start
  have opens : Upholds (Session.Mute count) (opening plan certificate) (fun outcome session =>
      outcome = .noResponse ∧ session.port.Still (count + plan.beginAttempts))
      fun _ _ => False :=
    warns.bind fun _ => (settle_mute plan count).bind fun _ => begins count
  rw [phases_eq]
  apply opens.bind
  intro outcome session left
  rw [left.1]
  exact ⟨rfl, left.2⟩

/-- **An upload to a mute device gives up after its attempts.** It makes one read for each attempt
to find the answer to the begin marker, and the begin marker is all that it sends. -/
theorem run_mute (plan : UploadPlan) (certificate : Certificate) {session : Session Device}
    (mute : session.port.Mute) :
    ((run plan certificate).run session).1 = .ok (.aborted .noResponse) ∧
      ((run plan certificate).run session).2.port.readCount =
        session.port.readCount + plan.beginAttempts ∧
      acceptedBytes (operations plan certificate session) = Command.begin.encode := by
  obtain ⟨report, done, rfl, still⟩ := (phases_mute plan certificate _).succeeds ⟨mute, rfl⟩
  have closed : (Port.close ((phases plan certificate).run session).2.port).1 = .ok () :=
    Device.outcome_ok still.mute.closes
  refine ⟨?_, ?_, ?_⟩
  · rw [run_ok done, closed]
    rfl
  · rw [run_last]
    exact still.counted
  · obtain ⟨sent, orderly, -, whole⟩ := phaseOperations_orderly plan certificate session
    rw [done] at orderly
    rw [acceptedBytes_operations, orderly.acceptsAll rfl, whole _ done]
    rfl

end Upload

end CertConsole
