import CertConsole.Proofs.Delivery
import CertConsole.Proofs.Simulation
import Mathlib.Control.Monad.Basic

/-!
# Output from before an upload

What a console has printed before an upload begins is waiting in the queue when the upload starts,
and it can be anything: an acknowledgement, an error phrase, a save confirmation of an earlier
upload, half a line, a failing read. No upload is told by it (`boot_output_invisible`). Where
settling can discard it, it is gone before the first read; where it cannot, the port is closed or
settling fails, and the upload ends without a read.
-/
namespace CertConsole

namespace Device

/-- Devices that differ at most in what is waiting to be read. -/
def AlikeButQueue (left right : Device) : Prop :=
  ∃ waiting, right = { left with queue := waiting }

/-- Devices that differ in nothing an upload can find out from now on: they are one, or they differ
in what is waiting and are closed, so that neither will be read. -/
def Forgotten (left right : Device) : Prop :=
  left = right ∨ left.isClosed = true ∧ AlikeButQueue left right

theorem AlikeButQueue.refl (device : Device) : AlikeButQueue device device :=
  ⟨device.queue, rfl⟩

namespace Forgotten

variable {left right : Device}

/-- What is forgotten was a difference in what is waiting. -/
theorem alike (forgotten : Forgotten left right) : AlikeButQueue left right := by
  rcases forgotten with rfl | ⟨-, alike⟩
  · exact .refl left
  · exact alike

/-- An operation agrees where it agrees on closed devices. -/
theorem agree {α ε : Type} (operation : Device → Except ε α × Device)
    (closed : ∀ {device : Device} (waiting : List Item), device.isClosed = true →
      Port.Agree Forgotten (operation device) (operation { device with queue := waiting }))
    (forgotten : Forgotten left right) :
    Port.Agree Forgotten (operation left) (operation right) := by
  rcases forgotten with rfl | ⟨shut, waiting, rfl⟩
  · exact ⟨rfl, .inl rfl⟩
  · exact closed waiting shut

/-- An upload cannot tell such devices apart: a closed device fails every write and every read, has
nothing to discard, and closes by its script. -/
theorem simulation : Port.Simulation Forgotten where
  name forgotten := by
    obtain ⟨waiting, rfl⟩ := forgotten.alike
    rfl
  pause _ _ _ forgotten := forgotten
  deliver bytes _ _ forgotten := by
    refine forgotten.agree (Port.deliver bytes) fun {device} waiting shut => ?_
    rw [deliver_closed shut, @deliver_closed { device with queue := waiting } shut]
    exact ⟨rfl, .inr ⟨shut, waiting, rfl⟩⟩
  readLine forgotten := by
    refine forgotten.agree Port.readLine fun {device} waiting shut => ?_
    rw [readLine_closed shut, @readLine_closed { device with queue := waiting } shut]
    exact ⟨rfl, .inr ⟨shut, waiting, rfl⟩⟩
  clear forgotten := by
    refine forgotten.agree Port.clear fun {device} waiting shut => ?_
    rw [clear_closed shut, @clear_closed { device with queue := waiting } shut]
    exact ⟨rfl, .inr ⟨shut, waiting, rfl⟩⟩
  clearEvents _ := rfl
  close forgotten := by
    refine forgotten.agree Port.close fun waiting _ => ?_
    exact ⟨rfl, .inr ⟨rfl, waiting, rfl⟩⟩
  closeEvents _ := rfl

end Forgotten

/-- Closing has one result whatever is waiting. -/
theorem AlikeButQueue.close {left right : Device} (alike : AlikeButQueue left right) :
    Port.Agree AlikeButQueue (Port.close left) (Port.close right) := by
  obtain ⟨waiting, rfl⟩ := alike
  exact ⟨rfl, waiting, rfl⟩

/-- Discarding input on devices that differ in what is waiting has one result, and where it does
not fail the difference is forgotten: the queues are both empty, or the devices are closed. -/
theorem AlikeButQueue.clear {left right : Device} (alike : AlikeButQueue left right) :
    (Port.clear left).1 = (Port.clear right).1 ∧
      AlikeButQueue (Port.clear left).2 (Port.clear right).2 ∧
      ((Port.clear left).1 = .ok () → Forgotten (Port.clear left).2 (Port.clear right).2) := by
  obtain ⟨waiting, rfl⟩ := alike
  by_cases closed : left.isClosed = true
  · have still : AlikeButQueue { left with clearCount := left.clearCount + 1 }
        { left with clearCount := left.clearCount + 1, queue := waiting } := ⟨waiting, rfl⟩
    rw [clear_closed closed, @clear_closed { left with queue := waiting } closed]
    exact ⟨rfl, still, fun _ => .inr ⟨closed, still⟩⟩
  · have opened : left.isClosed = false := Bool.eq_false_iff.mpr closed
    rw [clear_open opened, @clear_open { left with queue := waiting } opened]
    rcases scripted : outcome left.clears with error | ⟨⟩
    · exact ⟨rfl, ⟨waiting, rfl⟩, nofun⟩
    · exact ⟨rfl, .refl _, fun _ => .inl rfl⟩

/-- On an open device input that is discarded is gone without a trace. -/
theorem clear_forgets {device : Device} (opened : device.isClosed = false)
    (discards : (Port.clear device).1 = .ok ()) (waiting : List Item) :
    Port.clear { device with queue := waiting } = Port.clear device := by
  have here := clear_open opened
  have there := @clear_open { device with queue := waiting } opened
  rcases scripted : outcome device.clears with error | ⟨⟩
  · rw [here, scripted] at discards
    cases discards
  · rw [here, there]
    simp only [scripted]

end Device

namespace Upload

open Procedure Device

/-- Settling on devices that differ in what is waiting has one result and tells the same; where it
does not fail the difference is forgotten. -/
theorem settle_forgets (plan : UploadPlan) {left right : Session Device}
    (alike : Session.Alike AlikeButQueue left right) :
    ((settle plan).run left).1 = ((settle plan).run right).1 ∧
      Session.Alike AlikeButQueue ((settle plan).run left).2 ((settle plan).run right).2 ∧
      (((settle plan).run left).1 = .ok () →
        Session.Alike Forgotten ((settle plan).run left).2 ((settle plan).run right).2) := by
  obtain ⟨result, still, forgotten⟩ := alike.port.clear
  have name : Port.name left.port = Port.name right.port := by
    obtain ⟨waiting, same⟩ := alike.port
    rw [same]
    rfl
  have log : left.log ++ [.settling (Port.name left.port)] =
      right.log ++ [.settling (Port.name right.port)] := by
    rw [alike.log, name]
  rw [run_settle, run_settle, run_clearInput, run_clearInput]
  exact ⟨result, ⟨still, congrArg (· ++ _) log, alike.progress⟩,
    fun done => ⟨forgotten done, congrArg (· ++ _) log, alike.progress⟩⟩

/-- The phases on devices that differ in what is waiting have one result and tell the same, and the
devices still differ in nothing else. -/
theorem phases_forget (plan : UploadPlan) (certificate : Certificate)
    {left right : Session Device} (alike : Session.Alike AlikeButQueue left right) :
    ((phases plan certificate).run left).1 = ((phases plan certificate).run right).1 ∧
      Session.Alike AlikeButQueue ((phases plan certificate).run left).2
        ((phases plan certificate).run right).2 := by
  rw [phases_settling, run_bind, run_bind, warnOfSize, run_tell, run_tell]
  generalize (if Certificate.capacity ≤ certificate.storedSize
    then [Event.overCapacity certificate.storedSize] else []) = warning
  have warned : Session.Alike AlikeButQueue { left with log := left.log ++ warning }
      { right with log := right.log ++ warning } :=
    ⟨alike.port, congrArg (· ++ warning) alike.log, alike.progress⟩
  obtain ⟨result, still, forgotten⟩ := settle_forgets plan warned
  simp only [run_bind]
  rcases here : (settle plan).run { left with log := left.log ++ warning } with
      ⟨error | ⟨⟩, after⟩ <;>
    rcases there : (settle plan).run { right with log := right.log ++ warning } with
      ⟨error' | ⟨⟩, after'⟩ <;>
    rw [here, there] at result still forgotten <;> cases result
  · exact ⟨rfl, still⟩
  · obtain ⟨same, last⟩ := afterSettling_simulates Forgotten.simulation plan certificate _ _
      (forgotten rfl)
    exact ⟨same, last.port.alike, last.log, last.progress⟩

/-- A whole upload on devices that differ in what is waiting has one result and tells the same, and
the devices still differ in nothing else. -/
theorem run_forgets (plan : UploadPlan) (certificate : Certificate)
    {left right : Session Device} (alike : Session.Alike AlikeButQueue left right) :
    ((run plan certificate).run left).1 = ((run plan certificate).run right).1 ∧
      Session.Alike AlikeButQueue ((run plan certificate).run left).2
        ((run plan certificate).run right).2 := by
  obtain ⟨same, after⟩ := phases_forget plan certificate alike
  obtain ⟨closed, last⟩ := after.port.close
  rw [run_run, run_run]
  simp only [same, closed]
  exact ⟨trivial, last, congrArg (· ++ _) after.log, after.progress⟩

/-- Where an open device discards its input an upload is the same on any device that differs in what
is waiting. -/
theorem run_forgotten (plan : UploadPlan) (certificate : Certificate) {device : Device}
    (opened : device.isClosed = false) (discards : (Port.clear device).1 = .ok ())
    (waiting : List Item) (log : List Event) (progress : List (Nat × Nat)) :
    (run plan certificate).run ⟨{ device with queue := waiting }, log, progress⟩ =
      (run plan certificate).run ⟨device, log, progress⟩ := by
  have settled (log : List Event) :
      (settle plan).run ⟨{ device with queue := waiting }, log, progress⟩ =
        (settle plan).run ⟨device, log, progress⟩ := by
    have gone := clear_forgets opened discards waiting
    rw [run_settle, run_settle, run_clearInput, run_clearInput]
    exact congrArg (fun cleared : Except PortError Unit × Device =>
      (cleared.1, (⟨cleared.2, _, progress⟩ : Session Device))) gone
  have phased : (phases plan certificate).run ⟨{ device with queue := waiting }, log, progress⟩ =
      (phases plan certificate).run ⟨device, log, progress⟩ := by
    rw [phases_settling, run_bind, run_bind, warnOfSize, run_tell, run_tell]
    simp only [run_bind, settled]
  rw [run_run, run_run, phased]

/-- **Output from before an upload is invisible.** On two devices that differ in what is waiting
when an upload starts, be it bytes, half a line or failing reads, the upload has one result, tells
one log and one progress, and the far ends receive the same commands; the devices still differ in
nothing but what is waiting. They do not even differ in this, nor in the number of reads, if they
are open and discard their input when they are told to. -/
theorem boot_output_invisible (plan : UploadPlan) (certificate : Certificate) (device : Device)
    (boot : List Item) (log : List Event) (progress : List (Nat × Nat)) :
    let first := (run plan certificate).run ⟨device, log, progress⟩
    let second := (run plan certificate).run ⟨{ device with queue := boot }, log, progress⟩
    first.1 = second.1 ∧ first.2.log = second.2.log ∧ first.2.progress = second.2.progress ∧
      first.2.port.responder.commands = second.2.port.responder.commands ∧
      (∃ waiting, second.2.port = { first.2.port with queue := waiting }) ∧
      (device.isClosed = false → (Port.clear device).1 = .ok () →
        first.2.port.queue = second.2.port.queue ∧
          first.2.port.readCount = second.2.port.readCount ∧
          first.2.port = second.2.port) := by
  intro first second
  have alike : Session.Alike AlikeButQueue (⟨device, log, progress⟩ : Session Device)
      ⟨{ device with queue := boot }, log, progress⟩ := ⟨⟨boot, rfl⟩, rfl, rfl⟩
  obtain ⟨result, after⟩ := run_forgets plan certificate alike
  have commands : first.2.port.responder.commands = second.2.port.responder.commands := by
    obtain ⟨waiting, same⟩ := after.port
    have responder := congrArg Device.responder same
    exact (congrArg Responder.commands responder).symm
  refine ⟨result, after.log, after.progress, commands, after.port, ?_⟩
  intro opened discards
  have same : second = first :=
    run_forgotten plan certificate opened discards boot log progress
  rw [same]
  exact ⟨rfl, rfl, rfl⟩

/-- A console that printed all that an upload wants to hear, and says nothing any more, gets the
report of one that never said anything. -/
theorem boot_output_invisible_stale :
    let boot := (Utf8.encode "ready to receive\nok\ncertificate saved\nCA: YES\n".toList).map .byte
    let device : Device := {}
    let first := (run {} (.ofText "a")).run ⟨device, [], []⟩
    let second := (run {} (.ofText "a")).run ⟨{ device with queue := boot }, [], []⟩
    second.1 = .ok (.aborted .noResponse) ∧ device.isClosed = false ∧
      (Port.clear device).1 = .ok () ∧ first.2.port = second.2.port := by
  intro boot device first second
  have silent : first.1 = .ok (.aborted .noResponse) := by decide +kernel
  have discards : (Port.clear device).1 = .ok () := rfl
  obtain ⟨result, -, -, -, -, settled⟩ :=
    boot_output_invisible {} (.ofText "a") device boot [] []
  exact ⟨result.symm.trans silent, rfl, discards, (settled rfl discards).2.2⟩

end Upload

end CertConsole
