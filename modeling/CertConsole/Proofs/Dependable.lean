import CertConsole.Proofs.Delivery
import CertConsole.Proofs.LineConsole

/-!
# Dependable devices

A device whose calls do not fail and whose far end answers with whole lines. It accepts whole
buffers, can be flushed, cleared and closed at any time, and silence is all that its empty queue
has to say.
-/
namespace CertConsole

/-- A reply that is nothing but lines. -/
def LineReply (reply : List Item) : Prop :=
  ∃ bytes, reply = bytes.map .byte ∧ WaitingLine.Whole bytes

/-- An open device none of whose calls fails, with a far end that answers with lines. -/
structure Device.Dependable (device : Device) : Prop where
  /-- It is open. -/
  isOpen : device.isClosed = false
  /-- No write fails for good. -/
  writes : ∀ rule ∈ device.writes, rule.Benign
  /-- Every write takes something. -/
  writeLimit : device.writeLimit ≠ some 0
  /-- No flush fails. -/
  flushes : ∀ error ∈ device.flushes, error = none
  /-- Input can always be discarded. -/
  clears : ∀ error ∈ device.clears, error = none
  /-- The device can always be closed. -/
  closes : ∀ error ∈ device.closes, error = none
  /-- There is time to read a line. -/
  timeout : device.timeout ≠ 0
  /-- An empty queue is silence. -/
  idle : device.idle.Silent
  /-- The far end answers with lines. -/
  replies : ∀ kind, ∀ reply ∈ device.responder.replies kind, LineReply reply

namespace Responder

/-- An answer is an entry of the script, or there is none. -/
theorem answer_mem (responder : Responder) (kind : CommandKind) :
    responder.answer kind ∈ responder.replies kind ∨ responder.answer kind = [] := by
  have entry (script : List (List Item)) (index : Nat) :
      (script[index]?.or script.getLast?).getD [] ∈ script ∨
        (script[index]?.or script.getLast?).getD [] = [] := by
    cases found : script[index]? with
    | some reply => exact .inl (List.mem_of_getElem? found)
    | none =>
      cases final : script.getLast? with
      | some reply => exact .inl (List.mem_of_getLast? final)
      | none => exact .inr rfl
  exact entry _ _

/-- A far end that has lines to answer with answers with lines. -/
theorem answer_lines {responder : Responder} {kind : CommandKind}
    (lines : ∀ reply ∈ responder.replies kind, LineReply reply) :
    LineReply (responder.answer kind) := by
  rcases responder.answer_mem kind with entry | silent
  · exact lines _ entry
  · rw [silent]
    exact ⟨[], rfl, .inl rfl⟩

end Responder

namespace Device

/-- A script without errors has no error at its front, either. -/
theorem outcome_ok {ε : Type} {script : List (Option ε)} (fine : ∀ error ∈ script, error = none) :
    outcome script = .ok () := by
  cases script with
  | nil => rfl
  | cons error rest =>
    rw [fine error List.mem_cons_self]
    rfl

namespace Dependable

variable {device : Device}

/-- A dependable device accepts what is written. -/
theorem accepting (dependable : device.Dependable) : device.Accepting where
  writes := dependable.writes
  writeLimit := dependable.writeLimit

/-- A device stays dependable when bytes arrive and write calls are used up. -/
theorem took (dependable : device.Dependable) (bytes : List UInt8) {rules : List WriteRule}
    (benign : ∀ rule ∈ rules, rule.Benign) : (device.took bytes rules).Dependable where
  isOpen := dependable.isOpen
  writes := benign
  writeLimit := dependable.writeLimit
  flushes := dependable.flushes
  clears := dependable.clears
  closes := dependable.closes
  timeout := dependable.timeout
  idle := dependable.idle
  replies kind reply inside := by
    change reply ∈ (device.responder.receive bytes).2.replies kind at inside
    rw [Responder.receive_replies] at inside
    exact dependable.replies kind reply inside

theorem flush_eq (dependable : device.Dependable) :
    Port.flush device = (.ok (), { device with
      flushes := device.flushes.tail, flushCount := device.flushCount + 1 }) := by
  rw [flush_open dependable.isOpen, outcome_ok dependable.flushes]

/-- Discarding input leaves nothing to read. -/
theorem clear_eq (dependable : device.Dependable) :
    Port.clear device = (.ok (), { device with
      clears := device.clears.tail, clearCount := device.clearCount + 1, queue := [] }) := by
  rw [clear_open dependable.isOpen, outcome_ok dependable.clears]

theorem close_ok (dependable : device.Dependable) : device.close.1 = .ok () :=
  outcome_ok dependable.closes

/-- A device stays dependable when it is read. -/
theorem left (dependable : device.Dependable) (queue : List Item) (reads : Nat) :
    (device.left queue reads).Dependable :=
  { dependable with }

end Dependable

end Device

end CertConsole
