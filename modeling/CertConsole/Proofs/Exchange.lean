import CertConsole.Proofs.Origins
import CertConsole.Proofs.Truthfulness

/-!
# Traced exchanges

An exchange is a command, the device as the command found it, and the lines that were read for its
answer, each with what was taken from the queue for it. An inquiry on a traced device is an exchange
and what it comes to (`inquire_traced`), and the lines of an exchange are made of what is at the
front of the queue once the command was received, one after the other (`exchangeTraced_ok`).
-/
namespace CertConsole

/-- A line that was read, and what it was made of. -/
structure Reading where
  /-- The line. -/
  text : String
  /-- What was taken from the queue for it. -/
  arrivals : List Arrival
  deriving DecidableEq, Repr

/-- A line that is the text of the bytes that were taken for it. -/
def Reading.Genuine (reading : Reading) : Prop :=
  reading.text = Reply.decodeLine (Arrival.bytes reading.arrivals)

/-- A command that was sent, and the lines that were read for its answer. -/
structure Exchange (α : Type) where
  /-- The device as the command found it. -/
  before : Traced
  /-- The lines, in order. -/
  readings : List Reading
  /-- What the last line has of what was looked for. -/
  answer : Option α

namespace Exchange

variable {α : Type}

/-- The number of the command at the device. -/
def number (exchange : Exchange α) : Nat := exchange.before.device.responder.commands.length

/-- What was unread when the command was sent. -/
def unread (exchange : Exchange α) : List Arrival := exchange.before.waiting

/-- The answer of the device to the command. -/
def reply (exchange : Exchange α) (command : Command) : List Arrival :=
  (exchange.before.device.responder.answer (.ofBytes command.bytes)).map
    (⟨.answer exchange.number, ·⟩)

end Exchange

/-- A session on a device whose input is traced from here on. -/
def Session.traced (session : Session Device) : Session Traced :=
  { session with port := {
      device := session.port
      waiting := session.port.queue.map (⟨.earlier, ·⟩)
      aligned := by rw [List.map_map]; exact List.map_id _ } }

namespace Procedure

variable {α β : Type}

/-- Read a line and keep what was taken for it. -/
def readTraced : Procedure Traced Reading := do
  let before := (← get).port.waiting
  let text ← readLine
  let after := (← get).port.waiting
  return ⟨text, before.take (before.length - after.length)⟩

/-- A poll that also gives what it read. -/
def listenTraced (find : String → Option α) : Nat → Procedure Traced (List Reading × Option α)
  | 0 => return ([], none)
  | attempts + 1 => do
    let reading ← readTraced
    match answerIn find reading.text with
    | some found => return ([reading], some found)
    | none =>
      let (readings, found) ← listenTraced find attempts
      return (reading :: readings, found)

/-- Send a command, let time pass and listen for an answer. -/
def exchangeTraced (command : Command) (wait : Milliseconds) (find : String → Option α)
    (attempts : Nat) : Procedure Traced (Exchange α) := do
  let before := (← get).port
  send command
  pause wait
  let (readings, answer) ← listenTraced find attempts
  return ⟨before, readings, answer⟩

theorem run_readTraced (session : Session Traced) :
    readTraced.run session =
      ((readLine.run session).1.map fun text => ⟨text, session.port.waiting.take
        (session.port.waiting.length - (readLine.run session).2.port.waiting.length)⟩,
        (readLine.run session).2) := by
  change (readLine >>= _ : Procedure Traced Reading).run session = _
  rw [run_bind]
  rcases readLine.run session with ⟨error | text, after⟩ <;> rfl

/-- Without what was taken, a traced read is a read. -/
theorem readTraced_erases : (readLine : Procedure Traced String) = Reading.text <$> readTraced := by
  funext session
  change readLine.run session = (Reading.text <$> readTraced).run session
  rw [run_map, run_readTraced]
  rcases readLine.run session with ⟨error | text, after⟩ <;> rfl

/-- Without what was taken, traced listening is listening. -/
theorem listenTraced_erases (find : String → Option α) (attempts : Nat) :
    (listen find attempts : Procedure Traced (List String × Option α)) =
      (fun heard => (heard.1.map Reading.text, heard.2)) <$> listenTraced find attempts := by
  induction attempts with
  | zero => rw [listen, listenTraced, map_pure]; rfl
  | succ attempts ih =>
    rw [listen, listenTraced, map_bind, readTraced_erases, bind_map_left]
    congr 1
    funext reading
    cases answerIn find reading.text with
    | some found => rw [map_pure]; rfl
    | none =>
      rw [ih, map_bind, bind_map_left]
      simp only [map_pure, List.map_cons]

/-- Without the lines, traced listening is polling. -/
theorem poll_traced (find : String → Option α) (attempts : Nat) :
    (poll find attempts : Procedure Traced (Option α)) =
      Prod.snd <$> listenTraced find attempts := by
  rw [listen_erases, listenTraced_erases, ← comp_map]
  rfl

/-- An inquiry is a traced exchange and what it comes to. -/
theorem inquire_traced (command : Command) (wait : Milliseconds) (find : String → Option α)
    (attempts : Nat) (conclude : Option α → β) (event : β → Event) :
    (inquire command wait find attempts conclude event : Procedure Traced β) =
      exchangeTraced command wait find attempts >>= fun exchange => do
        tell [event (conclude exchange.answer)]
        return conclude exchange.answer := by
  have looked (procedure : Procedure Traced β) :
      procedure = (get : Procedure Traced (Session Traced)) >>= fun _ => procedure := rfl
  rw [looked (inquire command wait find attempts conclude event)]
  unfold inquire exchangeTraced
  rw [poll_traced]
  simp only [bind_assoc, bind_map_left, pure_bind]

/-- A command that was sent is received. -/
theorem send_ok {command : Command} {session after : Session Traced}
    (done : (send command).run session = (.ok (), after)) :
    session.port.device.isClosed = false ∧
      Traced.Took command.encode session.port after.port := by
  rw [run_send] at done
  rcases delivered : Port.deliver command.encode session.port with ⟨error | ⟨⟩, port⟩
  · rw [delivered] at done
    cases done
  · have took := Traced.deliver_ok (by rw [delivered])
    have opened := Traced.deliver_opened (by rw [delivered])
    rw [delivered] at done took
    cases done
    exact ⟨opened, took⟩

/-- A line that is read is made of what is at the front of the queue. -/
theorem readLine_gave {line : String} {session after : Session Traced}
    (done : readLine.run session = (.ok line, after)) :
    ∃ taken, Traced.Gave taken session.port after.port ∧
      line = Reply.decodeLine (Arrival.bytes taken) := by
  rw [run_readLine] at done
  rcases found : Port.readLine session.port with ⟨error | text, port⟩
  · rw [found] at done
    cases done
  · obtain ⟨taken, gave, decoded⟩ := Traced.readLine_ok (by rw [found])
    rw [found] at done gave
    cases done
    exact ⟨taken, gave, decoded⟩

/-- A traced read keeps just what was taken. -/
theorem readTraced_gave {reading : Reading} {session after : Session Traced}
    (done : readTraced.run session = (.ok reading, after)) :
    Traced.Gave reading.arrivals session.port after.port ∧ reading.Genuine := by
  rw [run_readTraced] at done
  rcases found : readLine.run session with ⟨error | text, last⟩
  · rw [found] at done
    cases done
  · obtain ⟨taken, gave, decoded⟩ := readLine_gave found
    rw [found] at done
    simp only [gave.eq_take] at done
    cases done
    exact ⟨gave, decoded⟩

/-- What traced listening comes to. -/
structure Overheard (find : String → Option α) (attempts : Nat) (before after : Traced)
    (readings : List Reading) (answer : Option α) : Prop where
  /-- The lines are made of what is at the front of the queue, one after the other. -/
  gave : Traced.Gave (readings.flatMap Reading.arrivals) before after
  /-- Each line is the text of what was taken for it. -/
  genuine : ∀ reading ∈ readings, reading.Genuine
  /-- The lines were listened to. -/
  listened : Listened find attempts (readings.map Reading.text) answer

/-- Traced listening takes its lines from the front of the queue. -/
theorem listenTraced_gave {find : String → Option α} {attempts : Nat} {readings : List Reading}
    {answer : Option α} {session after : Session Traced}
    (done : (listenTraced find attempts).run session = (.ok (readings, answer), after)) :
    Traced.Gave (readings.flatMap Reading.arrivals) session.port after.port ∧
      ∀ reading ∈ readings, reading.Genuine := by
  induction attempts generalizing session readings answer with
  | zero =>
    cases done
    exact ⟨.nothing _, nofun⟩
  | succ attempts ih =>
    rw [listenTraced] at done
    obtain ⟨reading, between, read, rest⟩ := run_bind_ok.mp done
    obtain ⟨gave, genuine⟩ := readTraced_gave read
    cases judged : answerIn find reading.text with
    | some found =>
      rw [judged] at rest
      cases rest
      rw [List.flatMap_singleton]
      refine ⟨gave, fun other inside => ?_⟩
      rw [List.mem_singleton.mp inside]
      exact genuine
    | none =>
      rw [judged] at rest
      obtain ⟨⟨others, found⟩, last, listened, told⟩ := run_bind_ok.mp rest
      cases told
      obtain ⟨gaveMore, genuineToo⟩ := ih listened
      rw [List.flatMap_cons]
      refine ⟨gave.trans gaveMore, fun other inside => ?_⟩
      rcases List.mem_cons.mp inside with rfl | behind
      · exact genuine
      · exact genuineToo other behind

theorem listenTraced_ok {find : String → Option α} {attempts : Nat} {readings : List Reading}
    {answer : Option α} {session after : Session Traced}
    (done : (listenTraced find attempts).run session = (.ok (readings, answer), after)) :
    Overheard find attempts session.port after.port readings answer := by
  obtain ⟨gave, genuine⟩ := listenTraced_gave done
  refine ⟨gave, genuine, listen_gives find attempts session (readings.map Reading.text, answer) ?_⟩
  rw [listenTraced_erases, run_map, done]
  rfl

/-- An exchange finds the device as it is, and after its command it listens. -/
theorem exchangeTraced_ok {command : Command} {wait : Milliseconds} {find : String → Option α}
    {attempts : Nat} {exchange : Exchange α} {session after : Session Traced}
    (done : (exchangeTraced command wait find attempts).run session = (.ok exchange, after)) :
    exchange.before = session.port ∧
      ∃ asked, Traced.Took command.encode session.port asked ∧
        Overheard find attempts asked after.port exchange.readings exchange.answer := by
  change (send command >>= _ : Procedure Traced (Exchange α)).run session = _ at done
  obtain ⟨⟨⟩, asked, sent, rest⟩ := run_bind_ok.mp done
  obtain ⟨⟨⟩, waited, passed, later⟩ := run_bind_ok.mp rest
  obtain ⟨⟨readings, answer⟩, last, listened, told⟩ := run_bind_ok.mp later
  cases passed
  cases told
  exact ⟨rfl, _, (send_ok sent).2, listenTraced_ok listened⟩

/-- A poll takes what it reads from the front of the queue. -/
theorem poll_gave {find : String → Option α} {attempts : Nat} {answer : Option α}
    {session after : Session Traced}
    (done : (poll find attempts).run session = (.ok answer, after)) :
    ∃ taken, Traced.Gave taken session.port after.port := by
  rw [poll_traced, run_map] at done
  rcases listened : (listenTraced find attempts).run session with ⟨error | ⟨readings, found⟩, last⟩
  · rw [listened] at done
    cases done
  · rw [listened] at done
    cases done
    exact ⟨_, (listenTraced_gave listened).1⟩

end Procedure

end CertConsole
