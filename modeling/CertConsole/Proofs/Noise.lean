import CertConsole.Proofs.Delivery
import CertConsole.Proofs.Lockstep
import CertConsole.Proofs.Steps
import Mathlib.Control.Monad.Basic

/-!
# Noise of the transport

Interruptions are no part of what is read, and silence ends a line however it is told. So a queue
is read like the one that is left when the interruptions are dropped and all silence is made one
(`denoise`, `takeLine_denoise`), and two devices whose queues and scripts differ only in noise
cannot be told apart by any sequence of steps (`noise_invisible`).
-/
namespace CertConsole

/-- What an item is without the noise: nothing where it is an interruption, and the end of the data
where it is silence of any kind. -/
def Item.essence? : Item → Option Item
  | .byte value => some (.byte value)
  | .signal .endOfData => some (.signal .endOfData)
  | .signal (.failure error) =>
    if error.kind = .interrupted then none
    else if error.isSilence then some (.signal .endOfData)
    else some (.signal (.failure error))

/-- Items without the noise among them. -/
def denoise (items : List Item) : List Item := items.filterMap Item.essence?

theorem denoise_append (before after : List Item) :
    denoise (before ++ after) = denoise before ++ denoise after :=
  List.filterMap_append

/-- What a read of an item means for a line is what its essence means; an interruption adds nothing
and ends nothing. -/
theorem Item.verdict_essence (item : Item) :
    (item.essence? = none ∧ Port.verdict item.found = .continues []) ∨
      ∃ essence, item.essence? = some essence ∧
        Port.verdict item.found = Port.verdict essence.found := by
  cases item with
  | byte value => exact .inr ⟨_, rfl, rfl⟩
  | signal met =>
    cases met with
    | endOfData => exact .inr ⟨_, rfl, rfl⟩
    | failure error =>
      by_cases interrupted : error.kind = .interrupted
      · left
        simp [essence?, found, Device.readSignal, Port.verdict, interrupted]
      · right
        by_cases silent : error.isSilence = true
        · simp [essence?, found, Device.readSignal, Port.verdict, interrupted, silent]
        · simp [essence?, found, Device.readSignal, Port.verdict, interrupted, silent]

namespace Device

/-- The first line of a queue is that of the queue without noise, and so is what is left. -/
theorem takeLine_denoise (idle : Signal) (queue : List Item) :
    takeLine idle (denoise queue) =
      ((takeLine idle queue).1, denoise (takeLine idle queue).2) := by
  induction queue with
  | nil =>
    rw [denoise, List.filterMap_nil, takeLine]
    cases Port.verdict (readSignal idle) <;> rfl
  | cons item rest ih =>
    rw [takeLine]
    rcases item.verdict_essence with ⟨dropped, goesOn⟩ | ⟨essence, kept, same⟩
    · have unheard : (takeLine idle rest).1.map ([] ++ ·) = (takeLine idle rest).1 := by
        cases (takeLine idle rest).1 <;> rfl
      rw [denoise, List.filterMap_cons_none dropped, goesOn]
      simp only [unheard]
      exact ih
    · rw [denoise, List.filterMap_cons_some kept, takeLine, ← same]
      cases Port.verdict item.found with
      | ends bytes => rfl
      | fails error => rfl
      | continues bytes =>
        rw [denoise] at ih
        simp only [ih]

/-- Idle signals that are one, or both silence, end a line alike. -/
theorem takeLine_idle {left right : Signal} (alike : left = right ∨ left.Silent ∧ right.Silent)
    (queue : List Item) : takeLine left queue = takeLine right queue := by
  rcases alike with rfl | ⟨silent, quiet⟩
  · rfl
  · induction queue with
    | nil => rw [takeLine, takeLine, silent.verdict_ends, quiet.verdict_ends]
    | cons item rest ih => rw [takeLine, takeLine, ih]

end Device

/-- Far ends that received the same and whose scripts differ only in noise. -/
structure Responder.AlikeButNoise (left right : Responder) : Prop where
  /-- Each answer of the one script is, without noise, that of the other. -/
  replies : ∀ kind, (left.replies kind).map denoise = (right.replies kind).map denoise
  /-- They received the same commands. -/
  commands : left.commands = right.commands
  /-- The same bytes are pending. -/
  pending : left.pending = right.pending

namespace Responder.AlikeButNoise

variable {left right : Responder}

/-- They answer with the same but for noise. -/
theorem answer (alike : AlikeButNoise left right) (kind : CommandKind) :
    denoise (left.answer kind) = denoise (right.answer kind) := by
  have scripted (script : List (List Item)) (index : Nat) :
      denoise ((script[index]?.or script.getLast?).getD []) =
        ((script.map denoise)[index]?.or (script.map denoise).getLast?).getD [] := by
    rw [List.getElem?_map, List.getLast?_map]
    cases script[index]? <;> cases script.getLast? <;> rfl
  have counted : left.count kind = right.count kind := by
    rw [count, count, alike.commands]
  unfold Responder.answer
  simp only [scripted, alike.replies kind, counted]

/-- What they send when bytes arrive differs only in noise, and they stay alike. -/
theorem receive (alike : AlikeButNoise left right) (bytes : List UInt8) :
    denoise (left.receive bytes).1 = denoise (right.receive bytes).1 ∧
      AlikeButNoise (left.receive bytes).2 (right.receive bytes).2 := by
  induction bytes generalizing left right with
  | nil => exact ⟨rfl, alike⟩
  | cons byte bytes ih =>
    have step : denoise (left.receiveByte byte).1 = denoise (right.receiveByte byte).1 ∧
        AlikeButNoise (left.receiveByte byte).2 (right.receiveByte byte).2 := by
      have scripts (kind : CommandKind) :
          ((left.receiveByte byte).2.replies kind).map denoise =
            ((right.receiveByte byte).2.replies kind).map denoise := by
        rw [receiveByte_replies, receiveByte_replies]
        exact alike.replies kind
      refine ⟨?_, scripts, ?_, ?_⟩ <;> unfold receiveByte <;>
        by_cases last : byte = Command.terminator <;>
        simp only [last, ↓reduceIte, alike.pending, alike.commands]
      exact alike.answer _
    obtain ⟨answered, after⟩ := step
    obtain ⟨later, last⟩ := ih after
    rw [receive_cons, receive_cons, denoise_append, denoise_append, answered, later]
    exact ⟨rfl, last⟩

end Responder.AlikeButNoise

namespace Device

/-- Devices with time that differ only in the noise they send: in what is waiting, in the scripts of
their far ends, and in the kind of silence that an empty queue meets. -/
structure AlikeButNoise (left right : Device) : Prop where
  name : left.name = right.name
  /-- The one has time to read a line. -/
  timely : left.timeout ≠ 0
  /-- So has the other one. -/
  timelyToo : right.timeout ≠ 0
  responder : left.responder.AlikeButNoise right.responder
  /-- What is waiting is the same without noise. -/
  queue : denoise left.queue = denoise right.queue
  /-- Empty queues meet the same signal, or both of them silence. -/
  idle : left.idle = right.idle ∨ left.idle.Silent ∧ right.idle.Silent
  writeLimit : left.writeLimit = right.writeLimit
  writes : left.writes = right.writes
  flushes : left.flushes = right.flushes
  clears : left.clears = right.clears
  closes : left.closes = right.closes
  isClosed : left.isClosed = right.isClosed

namespace AlikeButNoise

variable {left right : Device}

/-- The same line is read. -/
theorem readLine (alike : AlikeButNoise left right) :
    Port.Agree AlikeButNoise (Port.readLine left) (Port.readLine right) := by
  cases closed : left.isClosed with
  | true =>
    rw [readLine_closed closed, readLine_closed (alike.isClosed.symm.trans closed)]
    exact ⟨rfl, alike⟩
  | false =>
    obtain ⟨reads, here⟩ := readLine_open closed alike.timely
    obtain ⟨readsToo, there⟩ :=
      readLine_open (alike.isClosed.symm.trans closed) alike.timelyToo
    have same : takeLine left.idle (denoise left.queue) =
        takeLine right.idle (denoise right.queue) := by
      rw [alike.queue, takeLine_idle alike.idle]
    rw [takeLine_denoise, takeLine_denoise] at same
    obtain ⟨line, rest⟩ := Prod.mk.inj same
    rw [here, there, line]
    exact ⟨rfl, { alike with queue := rest }⟩

/-- Bytes that both take are answered alike. -/
theorem took (alike : AlikeButNoise left right) (bytes : List UInt8) (rules : List WriteRule) :
    AlikeButNoise (left.took bytes rules) (right.took bytes rules) := by
  obtain ⟨answered, after⟩ := alike.responder.receive bytes
  have waiting : denoise (left.took bytes rules).queue =
      denoise (right.took bytes rules).queue := by
    change denoise (left.queue ++ _) = denoise (right.queue ++ _)
    rw [denoise_append, denoise_append, alike.queue, answered]
  exact { alike with responder := after, queue := waiting, writes := rfl }

/-- A write does the same. -/
theorem write (bytes : List UInt8) (alike : AlikeButNoise left right) :
    Port.Agree AlikeButNoise (Port.write bytes left) (Port.write bytes right) := by
  cases closed : left.isClosed with
  | true =>
    have shut := alike.isClosed.symm.trans closed
    rw [write_closed closed, write_closed shut]
    exact ⟨rfl, alike⟩
  | false =>
    rw [write_open closed, write_open (alike.isClosed.symm.trans closed), alike.writes,
      alike.writeLimit]
    rcases right.writes.head? with _ | _ | _ | _ <;> exact ⟨rfl, alike.took _ _⟩

/-- A flush has the same outcome. -/
theorem flush (alike : AlikeButNoise left right) :
    Port.Agree AlikeButNoise (Port.flush left) (Port.flush right) := by
  cases closed : left.isClosed with
  | true =>
    rw [flush_closed closed, flush_closed (alike.isClosed.symm.trans closed)]
    exact ⟨rfl, alike⟩
  | false =>
    rw [flush_open closed, flush_open (alike.isClosed.symm.trans closed), alike.flushes]
    exact ⟨rfl, { alike with flushes := rfl }⟩

/-- Input is discarded on both, or on neither. -/
theorem clear (alike : AlikeButNoise left right) :
    Port.Agree AlikeButNoise (Port.clear left) (Port.clear right) := by
  cases closed : left.isClosed with
  | true =>
    rw [clear_closed closed, clear_closed (alike.isClosed.symm.trans closed)]
    exact ⟨rfl, { alike with }⟩
  | false =>
    rw [clear_open closed, clear_open (alike.isClosed.symm.trans closed), alike.clears]
    rcases outcome right.clears with _ | _
    · exact ⟨rfl, { alike with clears := rfl }⟩
    · exact ⟨rfl, { alike with clears := rfl, queue := rfl }⟩

/-- Closing has the same outcome. -/
theorem close (alike : AlikeButNoise left right) :
    Port.Agree AlikeButNoise (Port.close left) (Port.close right) :=
  ⟨congrArg outcome alike.closes,
    { alike with closes := congrArg List.tail alike.closes, isClosed := rfl }⟩

/-- Such devices cannot be told apart by an upload. -/
theorem simulation : Port.Simulation AlikeButNoise where
  name := name
  pause _ _ _ alike := alike
  deliver bytes _ _ alike :=
    Port.deliver_agree (fun bytes _ _ held => write bytes held) (fun held => flush held) bytes alike
  readLine := readLine
  clear := clear
  clearEvents _ := rfl
  close := close
  closeEvents _ := rfl

end AlikeButNoise

end Device

namespace Upload

/-- **Noise of the transport is invisible.** Two devices with time, whose queues and scripts differ
only by interruptions that were put in or taken out and by silence of other kinds, and whose empty
queues meet one signal or both silence, cannot be told apart: every sequence of steps has the same
results and tells the same log and progress, and the far ends have received the same commands. -/
theorem noise_invisible (plan : UploadPlan) (steps : List Step) (left right : Device)
    (log : List Event) (progress : List (Nat × Nat)) (alike : left.AlikeButNoise right) :
    let first := carryOut plan steps ⟨left, log, progress⟩
    let second := carryOut plan steps ⟨right, log, progress⟩
    first.1 = second.1 ∧ first.2.log = second.2.log ∧ first.2.progress = second.2.progress ∧
      first.2.port.responder.commands = second.2.port.responder.commands ∧
      first.2.port.AlikeButNoise second.2.port := by
  have sessions : Session.Alike Device.AlikeButNoise (⟨left, log, progress⟩ : Session Device)
      ⟨right, log, progress⟩ := ⟨alike, rfl, rfl⟩
  obtain ⟨results, after⟩ :=
    carryOut_simulates Device.AlikeButNoise.simulation plan steps sessions
  exact ⟨results, after.log, after.progress, after.port.responder.commands, after.port⟩

/-- A device that interrupts the reading of its answers, and pauses where the other one has nothing
to send, is the same device. -/
theorem noise_invisible_interrupted :
    let bytes (text : String) : List Item := (Utf8.encode text.toList).map .byte
    let interrupted : Item := .signal (.failure ⟨.interrupted, "again"⟩)
    let left : Device := {
      responder := {
        beginReplies := [bytes "ready to " ++ bytes "receive\n"]
        lineReplies := [bytes "o" ++ [.signal .endOfData] ++ bytes "k\n"]
        finishReplies := [bytes "certificate saved\n"] }
      queue := bytes "boot" }
    let right : Device := {
      responder := {
        beginReplies := [interrupted :: (bytes "ready to " ++ [interrupted] ++ bytes "receive\n")]
        lineReplies := [bytes "o" ++ [.signal (.failure ⟨.wouldBlock, "none"⟩)] ++ bytes "k\n"]
        finishReplies := [bytes "certificate saved\n"] }
      queue := bytes "boot" ++ [interrupted]
      idle := .endOfData }
    let steps : List Step := [.verify, .run (.ofText "a\nb")]
    left.AlikeButNoise right ∧
      (carryOut {} steps ⟨left, [], []⟩).1 = (carryOut {} steps ⟨right, [], []⟩).1 ∧
      (carryOut {} steps ⟨right, [], []⟩).1 =
        [.ok (.told .notReported), .ok (.reported ⟨.ready, 2, true, .notReported⟩)] := by
  intro bytes interrupted left right steps
  have alike : left.AlikeButNoise right := {
    name := rfl
    timely := by decide
    timelyToo := by decide
    responder := {
      replies := fun kind => by cases kind <;> decide +kernel
      commands := rfl
      pending := rfl }
    queue := by decide +kernel
    idle := .inr ⟨rfl, trivial⟩
    writeLimit := rfl
    writes := rfl
    flushes := rfl
    clears := rfl
    closes := rfl
    isClosed := rfl }
  have same := (noise_invisible {} steps left right [] [] alike).1
  exact ⟨alike, same, by decide +kernel⟩

end Upload

end CertConsole
