import CertConsole.Port.Device
import CertConsole.Proofs.Certificate
import CertConsole.Proofs.Utf8

/-!
# Commands on the wire

A responder cuts what arrives at carriage returns. No command of an upload has one inside, so a
responder with nothing pending takes each command for one command, and what it was sent a part of
is one to it only once its carriage return has arrived (`receive_cut`).
-/
namespace CertConsole

namespace Command

/-- The bytes of a command before its terminator. -/
def bytes (command : Command) : List UInt8 := Utf8.encode command.text.toList

/-- A text without a carriage return has no terminator among its bytes. -/
theorem plain_of_text {command : Command} (plain : '\r' ∉ command.text.toList) :
    terminator ∉ command.bytes :=
  fun inside => plain (Utf8.mem_of_mem_encode inside (by decide))

end Command

namespace Responder

/-- The first byte is received, and then the others. -/
theorem receive_cons (byte : UInt8) (bytes : List UInt8) (responder : Responder) :
    responder.receive (byte :: bytes) =
      ((responder.receiveByte byte).1 ++ ((responder.receiveByte byte).2.receive bytes).1,
        ((responder.receiveByte byte).2.receive bytes).2) := rfl

/-- Receiving a byte leaves the script alone. -/
theorem receiveByte_replies (byte : UInt8) (responder : Responder) (kind : CommandKind) :
    (responder.receiveByte byte).2.replies kind = responder.replies kind := by
  unfold receiveByte
  by_cases last : byte = Command.terminator
  · rw [if_pos last]
    cases kind <;> rfl
  · rw [if_neg last]
    cases kind <;> rfl

/-- Receiving bytes leaves the script alone. -/
theorem receive_replies (bytes : List UInt8) (responder : Responder) (kind : CommandKind) :
    (responder.receive bytes).2.replies kind = responder.replies kind := by
  induction bytes generalizing responder with
  | nil => rfl
  | cons byte bytes ih => rw [receive_cons, ih, receiveByte_replies]

/-- What arrives in two parts is received part after part. -/
theorem receive_append (before after : List UInt8) (responder : Responder) :
    responder.receive (before ++ after) =
      ((responder.receive before).1 ++ ((responder.receive before).2.receive after).1,
        ((responder.receive before).2.receive after).2) := by
  induction before generalizing responder with
  | nil => rfl
  | cons byte before ih =>
    rw [List.cons_append, receive_cons, receive_cons, ih, List.append_assoc]

/-- Bytes without a terminator stay pending and are not answered. -/
theorem receive_plain {bytes : List UInt8} (plain : Command.terminator ∉ bytes)
    (responder : Responder) :
    responder.receive bytes =
      ([], { responder with pending := responder.pending ++ bytes }) := by
  induction bytes generalizing responder with
  | nil =>
    rw [receive, List.append_nil]
  | cons byte bytes ih =>
    have inner : byte ≠ Command.terminator := fun same => plain (same ▸ List.mem_cons_self)
    have rest := ih (fun inside => plain (List.mem_cons_of_mem byte inside))
    rw [receive_cons, receiveByte, if_neg inner]
    simp only [rest, List.append_assoc, List.singleton_append, List.append_nil]

/-- A terminator makes a command of what is pending, and the command is answered. -/
theorem receive_command {bytes : List UInt8} (plain : Command.terminator ∉ bytes)
    (responder : Responder) (idle : responder.pending = []) :
    responder.receive (bytes ++ [Command.terminator]) =
      (responder.answer (.ofBytes bytes),
        { responder with commands := responder.commands ++ [bytes], pending := [] }) := by
  rw [receive_append, receive_plain plain, receive_cons, receiveByte, if_pos rfl, idle]
  simp only [receive, List.nil_append, List.append_nil]
  rfl

/-- **What a responder makes of a part of some commands is a part of their list.** None is skipped,
repeated, moved or cut in two. -/
theorem receive_cut {commands : List (List UInt8)}
    (plain : ∀ command ∈ commands, Command.terminator ∉ command) {arrived : List UInt8}
    (sent : arrived <+: commands.flatMap (· ++ [Command.terminator])) (responder : Responder)
    (idle : responder.pending = []) :
    ∃ seen, seen <+: commands ∧
      (responder.receive arrived).2.commands = responder.commands ++ seen := by
  induction commands generalizing arrived responder with
  | nil =>
    rw [List.prefix_nil.mp sent]
    exact ⟨[], List.prefix_refl [], (List.append_nil _).symm⟩
  | cons command commands ih =>
    have own := plain command List.mem_cons_self
    have others := fun other inside => plain other (List.mem_cons_of_mem command inside)
    rw [List.flatMap_cons] at sent
    have unfinished (short : arrived <+: command) : ∃ seen, seen <+: command :: commands ∧
        (responder.receive arrived).2.commands = responder.commands ++ seen := by
      rw [receive_plain (fun inside => own (short.subset inside))]
      exact ⟨[], List.nil_prefix, (List.append_nil _).symm⟩
    rcases List.prefix_or_prefix_of_prefix sent (List.prefix_append _ _) with short | ⟨more, rfl⟩
    · rcases List.prefix_concat_iff.mp short with rfl | short
      · rw [receive_command own responder idle]
        exact ⟨[command], ⟨commands, rfl⟩, rfl⟩
      · exact unfinished short
    · have later := (List.prefix_append_right_inj _).mp sent
      rw [receive_append, receive_command own responder idle]
      obtain ⟨seen, part, received⟩ := ih others later
        { responder with commands := responder.commands ++ [command], pending := [] } rfl
      refine ⟨command :: seen, (List.prefix_cons_inj command).mpr part, ?_⟩
      simp only [received, List.append_assoc, List.singleton_append]

end Responder

end CertConsole
