import CertConsole.Proofs.Delivery
import CertConsole.Proofs.Lockstep
import CertConsole.Proofs.Steps
import Mathlib.Control.Monad.Basic

/-!
# Writes that are cut up

How much a device takes from each write, and how often it interrupts one, cannot be told from what
is done with it. Two devices that differ only in this take every buffer to its end, and the far end
answers while no read looks: so they are related again as soon as a buffer is delivered, and no
sequence of steps tells them apart (`fragments_invisible`).
-/
namespace CertConsole

namespace Device

/-- The same device with another behaviour of its writes. -/
def rewritten (device : Device) (limit : Option Nat) (rules : List WriteRule) : Device :=
  { device with writeLimit := limit, writes := rules }

/-- Two devices that differ in nothing but in how they accept what is written. -/
structure AlikeButWrites (left right : Device) : Prop where
  /-- With the writes of the other one each is the other one. -/
  same : right = left.rewritten right.writeLimit right.writes
  /-- The one accepts what is written. -/
  left : left.Accepting
  /-- So does the other one. -/
  right : right.Accepting

/-- An operation has one outcome under any behaviour of the writes, and leaves it alone. -/
def Indifferent {ε : Type} (operation : Device → ε × Device) : Prop :=
  ∀ device limit rules,
    operation (device.rewritten limit rules) =
        ((operation device).1, (operation device).2.rewritten limit rules) ∧
      (operation device).2.writeLimit = device.writeLimit ∧
      (operation device).2.writes = device.writes

/-- Reading one item is indifferent. -/
theorem read_indifferent : Indifferent Device.read := by
  intro device limit rules
  unfold Device.read rewritten
  by_cases closed : device.isClosed = true
  · simp only [closed, ↓reduceIte, and_self]
  · simp only [closed, Bool.false_eq_true, ↓reduceIte]
    rcases device.queue with _ | ⟨_ | _, _⟩ <;> exact ⟨rfl, rfl, rfl⟩

/-- Flushing is indifferent. -/
theorem flush_indifferent : Indifferent Device.flush := by
  intro device limit rules
  unfold Device.flush rewritten
  by_cases closed : device.isClosed = true
  · simp only [closed, ↓reduceIte, and_self]
  · simp only [closed, Bool.false_eq_true, ↓reduceIte, and_self]

/-- Discarding input is indifferent. -/
theorem clear_indifferent : Indifferent Device.clear := by
  intro device limit rules
  unfold Device.clear rewritten
  by_cases closed : device.isClosed = true
  · simp only [closed, ↓reduceIte, and_self]
  · simp only [closed, Bool.false_eq_true, ↓reduceIte]
    rcases outcome device.clears with _ | _ <;> exact ⟨rfl, rfl, rfl⟩

/-- Closing is indifferent. -/
theorem close_indifferent : Indifferent Device.close := fun _ _ _ => ⟨rfl, rfl, rfl⟩

namespace AlikeButWrites

variable {left right : Device}

/-- Such devices agree on every operation that is indifferent to the writes. -/
theorem agree {ε : Type} {operation : Device → ε × Device} (indifferent : Indifferent operation)
    (alike : AlikeButWrites left right) :
    Port.Agree AlikeButWrites (operation left) (operation right) := by
  have accepting {device : Device} (accepting : device.Accepting) :
      (operation device).2.Accepting := by
    obtain ⟨-, limit, rules⟩ := indifferent device none []
    constructor
    · rw [rules]
      exact accepting.writes
    · rw [limit]
      exact accepting.writeLimit
  obtain ⟨outcome, -, -⟩ := indifferent left right.writeLimit right.writes
  obtain ⟨-, limit, rules⟩ := indifferent right none []
  rw [← alike.same] at outcome
  refine ⟨(congrArg Prod.fst outcome).symm, ?_, accepting alike.left, accepting alike.right⟩
  rw [limit, rules]
  exact congrArg Prod.snd outcome

/-- A buffer that both take to its end leaves them alike. -/
theorem took (alike : AlikeButWrites left right) (bytes : List UInt8) {rules later : List WriteRule}
    (benign : ∀ rule ∈ rules, rule.Benign) (fine : ∀ rule ∈ later, rule.Benign) :
    AlikeButWrites (left.took bytes rules) (right.took bytes later) where
  same := by
    rw [alike.same]
    rfl
  left := alike.left.took bytes benign
  right := alike.right.took bytes fine

/-- Both deliver a buffer alike: to its end, or, where they are closed, not at all. -/
theorem deliver (bytes : List UInt8) (alike : AlikeButWrites left right) :
    Port.Agree AlikeButWrites (Port.deliver bytes left) (Port.deliver bytes right) := by
  have closing : right.isClosed = left.isClosed := by
    rw [alike.same]
    rfl
  cases closed : left.isClosed with
  | true =>
    rw [deliver_closed closed, deliver_closed (closing.trans closed)]
    exact ⟨rfl, alike⟩
  | false =>
    obtain ⟨rules, benign, here⟩ := alike.left.writeAll_eq bytes closed
    obtain ⟨later, fine, there⟩ := alike.right.writeAll_eq bytes (closing.trans closed)
    rw [Port.deliver_eq, Port.deliver_eq, here, there]
    exact (alike.took bytes benign fine).agree flush_indifferent

/-- Such devices cannot be told apart by an upload. -/
theorem simulation : Port.Simulation AlikeButWrites where
  name alike := (congrArg Device.name alike.same).symm
  pause _ _ _ alike := alike
  deliver bytes _ _ alike := alike.deliver bytes
  readLine alike := by
    have queue := congrArg Device.queue alike.same
    have timeout := congrArg Device.timeout alike.same
    refine Port.readLine_agree (fun alike => alike.agree read_indifferent) alike ?_
    change (if _ then _ else _) = (if _ then _ else _)
    rw [queue, timeout]
    rfl
  clear alike := alike.agree clear_indifferent
  clearEvents _ := rfl
  close alike := alike.agree close_indifferent
  closeEvents _ := rfl

end AlikeButWrites

end Device

namespace Upload

/-- **How writes are cut up is invisible.** On two devices that differ only in how much they take
from each write, and which writes they interrupt, every sequence of steps has the same results and
tells the same log and progress. The far end has received the same commands, the same bytes are
pending and the same items are waiting; in the end, too, the devices differ only in the writes, so
they were flushed equally often. -/
theorem fragments_invisible (plan : UploadPlan) (steps : List Step) (device : Device)
    (limit : Option Nat) (rules : List WriteRule) (log : List Event) (progress : List (Nat × Nat))
    (accepting : device.Accepting) (fragmenting : (device.rewritten limit rules).Accepting) :
    let left := carryOut plan steps ⟨device, log, progress⟩
    let right := carryOut plan steps ⟨device.rewritten limit rules, log, progress⟩
    left.1 = right.1 ∧ left.2.log = right.2.log ∧ left.2.progress = right.2.progress ∧
      left.2.port.responder = right.2.port.responder ∧ left.2.port.queue = right.2.port.queue ∧
      left.2.port.flushCount = right.2.port.flushCount ∧
      right.2.port = left.2.port.rewritten right.2.port.writeLimit right.2.port.writes := by
  have alike : Session.Alike Device.AlikeButWrites (⟨device, log, progress⟩ : Session Device)
      ⟨device.rewritten limit rules, log, progress⟩ :=
    ⟨⟨rfl, accepting, fragmenting⟩, rfl, rfl⟩
  obtain ⟨results, after⟩ :=
    carryOut_simulates Device.AlikeButWrites.simulation plan steps alike
  intro left right
  have same := after.port.same
  exact ⟨results, after.log, after.progress, (congrArg Device.responder same).symm,
    (congrArg Device.queue same).symm, (congrArg Device.flushCount same).symm, same⟩

/-- A device that takes single bytes after an interrupted write is sent the same as one that takes
whole buffers, also in an upload that follows other steps. -/
theorem fragments_invisible_bytes :
    let answers (text : String) : List (List Item) := [(Utf8.encode text.toList).map .byte]
    let device : Device := { responder := {
      beginReplies := answers "ready to receive\n"
      finishReplies := answers "certificate saved\n" } }
    let rules : List WriteRule := [.atMost 2, .fail ⟨.interrupted, "again"⟩]
    let steps : List Step := [.verify, .run (.ofText "a\nb")]
    let results : List (Except PortError Finding) :=
      [.ok (.told .notReported), .ok (.reported ⟨.ready, 2, true, .notReported⟩)]
    device.Accepting ∧ (device.rewritten (some 1) rules).Accepting ∧
      (carryOut {} steps ⟨device, [], []⟩).1 = results ∧
      (carryOut {} steps ⟨device.rewritten (some 1) rules, [], []⟩).1 = results := by
  intro answers device rules steps results
  have accepting : device.Accepting := ⟨nofun, nofun⟩
  have fragmenting : (device.rewritten (some 1) rules).Accepting := by
    refine ⟨fun rule inside => ?_, by decide⟩
    rcases List.mem_cons.mp inside with rfl | inside
    · exact Nat.two_pos
    · rw [List.mem_singleton.mp inside]
      rfl
  have whole : (carryOut {} steps ⟨device, [], []⟩).1 = results := by decide +kernel
  have same := fragments_invisible {} steps device (some 1) rules [] [] accepting fragmenting
  exact ⟨accepting, fragmenting, whole, same.1.symm.trans whole⟩

end Upload

end CertConsole
