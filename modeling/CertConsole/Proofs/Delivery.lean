import CertConsole.Proofs.Queue
import CertConsole.Proofs.Recording
import CertConsole.Proofs.Wire

/-!
# Buffers that are delivered to a device

A write may take less than it is offered and may be interrupted, yet a buffer reaches the far end of
an open device in one piece (`writeAll_eq`): the answers are those to all of its bytes, and only the
write calls that are still to come tell how it was cut up. A closed device takes nothing.
-/
namespace CertConsole

/-- A write call that takes something, or is interrupted and will be repeated. -/
def WriteRule.Benign : WriteRule → Prop
  | .normal => True
  | .atMost count => 0 < count
  | .fail error => error.kind = .interrupted

/-- A device whose writes take something, or are interrupted and will be repeated. -/
structure Device.Accepting (device : Device) : Prop where
  /-- No write fails for good. -/
  writes : ∀ rule ∈ device.writes, rule.Benign
  /-- Every write takes something. -/
  writeLimit : device.writeLimit ≠ some 0

namespace Device

/-- Bytes that arrive reach the far end, and its answers join the queue. -/
theorem receive_eq (bytes : List UInt8) (device : Device) :
    device.receive bytes = { device with
      responder := (device.responder.receive bytes).2
      queue := device.queue ++ (device.responder.receive bytes).1 } := rfl

/-- A device after some bytes arrived and with other write calls to come. -/
def took (device : Device) (bytes : List UInt8) (rules : List WriteRule) : Device :=
  { device.receive bytes with writes := rules }

theorem took_nil (device : Device) (rules : List WriteRule) :
    device.took [] rules = { device with writes := rules } := by
  unfold took
  rw [receive_eq, Responder.receive, List.append_nil]

/-- Bytes that arrive in two parts have arrived. -/
theorem took_took (device : Device) (before after : List UInt8) (rules later : List WriteRule) :
    (device.took before rules).took after later = device.took (before ++ after) later := by
  simp only [took, receive_eq, Responder.receive_append, List.append_assoc]

variable {device : Device}

/-- A write to an open device goes by the next rule, which is used up: it fails, or as much as the
rule or the device takes at most reaches the far end. -/
theorem write_open (opened : device.isClosed = false) (bytes : List UInt8) :
    Port.write bytes device =
      let take (limit : Nat) : WriteResult × Device :=
        (.accepted (min limit bytes.length),
          device.took (bytes.take (min limit bytes.length)) device.writes.tail)
      match device.writes.head? with
      | some (.fail error) => (.failed error, device.took [] device.writes.tail)
      | some (.atMost count) => take count
      | some .normal | none => take (device.writeLimit.getD bytes.length) := by
  change device.write bytes = _
  unfold write
  rw [if_neg (Bool.eq_false_iff.mp opened), took_nil]
  rcases device.writes.head? with _ | _ | _ | _ <;> rfl

/-- A closed device refuses every write. -/
theorem write_closed (closed : device.isClosed = true) (bytes : List UInt8) :
    Port.write bytes device = (.failed .portClosed, device) :=
  if_pos closed

/-- A write hands a part of the buffer to the far end, as much as the result says. -/
theorem write_took (bytes : List UInt8) (device : Device) :
    ∃ rules, (Port.write bytes device).2 =
      device.took (Operation.accepted (.write bytes (Port.write bytes device).1)) rules := by
  cases closed : device.isClosed with
  | true =>
    rw [write_closed closed]
    exact ⟨device.writes, (took_nil device device.writes).symm⟩
  | false =>
    rw [write_open closed]
    rcases device.writes.head? with _ | _ | _ | _ <;> exact ⟨device.writes.tail, rfl⟩

/-- An open device is flushed with the next outcome of the script. -/
theorem flush_open (opened : device.isClosed = false) :
    Port.flush device = (outcome device.flushes, { device with
      flushes := device.flushes.tail, flushCount := device.flushCount + 1 }) :=
  if_neg (Bool.eq_false_iff.mp opened)

/-- A closed device is not flushed. -/
theorem flush_closed (closed : device.isClosed = true) :
    Port.flush device = (.error .portClosed, device) :=
  if_pos closed

/-- Flushing sends nothing that was not taken before. -/
theorem flush_responder (device : Device) :
    (Port.flush device).2.responder = device.responder := by
  cases closed : device.isClosed with
  | true => rw [flush_closed closed]
  | false => rw [flush_open closed]

namespace Accepting

/-- A device keeps accepting when bytes arrive and write calls are used up. -/
theorem took (accepting : device.Accepting) (bytes : List UInt8) {rules : List WriteRule}
    (benign : ∀ rule ∈ rules, rule.Benign) : (device.took bytes rules).Accepting where
  writes := benign
  writeLimit := accepting.writeLimit

/-- A write takes a part of the buffer from its front, or it is interrupted. -/
theorem write_eq (accepting : device.Accepting) (opened : device.isClosed = false) (byte : UInt8)
    (rest : List UInt8) :
    (∃ count, Port.write (byte :: rest) device =
        (.accepted (count + 1), device.took ((byte :: rest).take (count + 1)) device.writes.tail)) ∨
      ∃ error, error.kind = .interrupted ∧
        Port.write (byte :: rest) device = (.failed error, device.took [] device.writes.tail) := by
  have accepts (limit : Nat) (positive : 0 < limit) :
      ∃ count, ((.accepted (min limit (byte :: rest).length),
          device.took ((byte :: rest).take (min limit (byte :: rest).length))
            device.writes.tail) : WriteResult × Device) =
        (.accepted (count + 1),
          device.took ((byte :: rest).take (count + 1)) device.writes.tail) := by
    have some : 0 < min limit (byte :: rest).length :=
      Nat.lt_min.mpr ⟨positive, Nat.succ_pos _⟩
    obtain ⟨count, whole⟩ := Nat.exists_eq_add_one.mpr some
    rw [whole]
    exact ⟨count, rfl⟩
  have unlimited : 0 < device.writeLimit.getD (byte :: rest).length := by
    cases limit : device.writeLimit with
    | none => exact Nat.succ_pos _
    | some most =>
      refine Nat.pos_of_ne_zero fun zero => ?_
      exact accepting.writeLimit (limit.trans (congrArg some zero))
  rw [write_open opened]
  cases script : device.writes.head? with
  | none => exact .inl (accepts _ unlimited)
  | some rule =>
    have fine := accepting.writes rule (List.mem_of_mem_head? script)
    cases rule with
    | normal => exact .inl (accepts _ unlimited)
    | atMost count => exact .inl (accepts count fine)
    | fail error => exact .inr ⟨error, fine, rfl⟩

/-- A buffer is written to its end, however the writes cut it up. -/
theorem writeAll_eq (bytes : List UInt8) (accepting : device.Accepting)
    (opened : device.isClosed = false) :
    ∃ rules, (∀ rule ∈ rules, rule.Benign) ∧
      Port.writeAll bytes device = (.ok (), device.took bytes rules) := by
  have benign {device : Device} (accepting : device.Accepting) :
      ∀ rule ∈ device.writes.tail, rule.Benign :=
    fun rule inside => accepting.writes rule (List.mem_of_mem_tail inside)
  induction bytes, device using Port.writeAll.induct with
  | case1 device =>
    refine ⟨device.writes, accepting.writes, ?_⟩
    rw [Port.writeAll_nil, took_nil]
  | case2 device byte rest next result =>
    rcases accepting.write_eq opened byte rest with ⟨count, wrote⟩ | ⟨error, -, wrote⟩
    · cases wrote.symm.trans result
    · cases wrote.symm.trans result
  | case3 device byte rest count next result _ ih =>
    rcases accepting.write_eq opened byte rest with ⟨taken, wrote⟩ | ⟨error, -, wrote⟩
    · cases wrote.symm.trans result
      obtain ⟨rules, fine, written⟩ := ih (accepting.took _ (benign accepting)) opened
      refine ⟨rules, fine, ?_⟩
      rw [Port.writeAll_cons, result]
      simp only [written]
      rw [took_took, List.take_succ_cons, List.cons_append, List.take_append_drop]
    · cases wrote.symm.trans result
  | case4 device byte rest error next result interrupted _ ih =>
    rcases accepting.write_eq opened byte rest with ⟨count, wrote⟩ | ⟨error', -, wrote⟩
    · cases wrote.symm.trans result
    · cases wrote.symm.trans result
      obtain ⟨rules, fine, written⟩ := ih (accepting.took _ (benign accepting)) opened
      refine ⟨rules, fine, ?_⟩
      rw [Port.writeAll_cons, result]
      simp only [interrupted, ↓reduceIte, written]
      rw [took_took, List.nil_append]
  | case5 device byte rest error next result fatal =>
    rcases accepting.write_eq opened byte rest with ⟨count, wrote⟩ | ⟨error', interrupted, wrote⟩
    · cases wrote.symm.trans result
    · cases wrote.symm.trans result
      exact absurd interrupted fatal

end Accepting

/-- A closed device takes nothing, not even an empty buffer. -/
theorem deliver_closed (closed : device.isClosed = true) (bytes : List UInt8) :
    Port.deliver bytes device = (.error .portClosed, device) := by
  rw [Port.deliver_eq]
  cases bytes with
  | nil => simp only [Port.writeAll_nil, flush_closed closed]
  | cons byte rest =>
    have fatal : ChannelError.portClosed.kind ≠ .interrupted := by decide
    simp only [Port.writeAll_cons, write_closed closed, fatal, ↓reduceIte]

end Device

end CertConsole
