import CertConsole.Proofs.Delivery

/-!
# Attended ports

An attended port is a port with an observer who writes down the lines that are read from it and the
last buffer that was offered to it. The observer sees single reads and cuts them into lines where a
line read does: whenever a line is read from the start, its outcome is what is written down
(`readLine_attended`). An upload does not notice the observer (`attends_simulation`).
-/
namespace CertConsole

/-- A port and what an observer of it has written down. -/
structure Attended (σ : Type) where
  /-- The port. -/
  port : σ
  /-- The line that is being read, if one is: how many reads more it has time for, and its bytes. -/
  line : Option (Nat × List UInt8) := none
  /-- What came of the lines that were read, in order. -/
  lines : List (Except ChannelError String) := []
  /-- The last buffer that was offered, and what the port did with it. -/
  offer : Option (List UInt8 × WriteResult) := none

namespace Attended

variable {σ : Type} [Port σ]

/-- The line that the next read goes on with. A new one has all the patience of the port. -/
def current (attended : Attended σ) : Nat × List UInt8 :=
  attended.line.getD (Port.patience attended.port, [])

/-- The line that is being read is over. -/
def complete (attended : Attended σ) (line : Except ChannelError (List UInt8)) : Attended σ :=
  { attended with line := none, lines := attended.lines ++ [line.map Reply.decodeLine] }

/-- A read found something for the line that is being read. -/
def hear (attended : Attended σ) (found : ReadResult) : Attended σ :=
  let (patience, bytes) := attended.current
  match Port.verdict found with
  | .ends last => attended.complete (.ok (bytes ++ last))
  | .fails error => attended.complete (.error error)
  | .continues more =>
    match patience with
    | 0 => attended.complete (.ok (bytes ++ more))
    | patience + 1 => { attended with line := some (patience, bytes ++ more) }

instance : Port (Attended σ) where
  name attended := Port.name attended.port
  patience attended := Port.patience attended.port
  read attended :=
    let (found, port) := Port.read attended.port
    (found, { attended.hear found with port })
  write bytes attended :=
    let (result, port) := Port.write bytes attended.port
    (result, { attended with port, offer := some (bytes, result) })
  flush attended :=
    let (result, port) := Port.flush attended.port
    (result, { attended with port })
  clear attended :=
    let (result, port) := Port.clear attended.port
    (result, { attended with port })
  clearEvents attended := Port.clearEvents attended.port
  close attended :=
    let (result, port) := Port.close attended.port
    (result, { attended with port })
  closeEvents attended := Port.closeEvents attended.port
  pause span attended := { attended with port := Port.pause span attended.port }
  stalls attended := Port.stalls attended.port
  stalls_of_interrupted bytes attended error attended' written interrupted := by
    obtain ⟨failed, rfl⟩ := Prod.mk.inj written
    exact Port.stalls_of_interrupted bytes attended.port error _ (Prod.ext failed rfl) interrupted
  stalls_of_accepted bytes attended count attended' written := by
    obtain ⟨accepted, rfl⟩ := Prod.mk.inj written
    exact Port.stalls_of_accepted bytes attended.port count _ (Prod.ext accepted rfl)

/-- An attended port is the port that it attends to. -/
abbrev Attends (attended : Attended σ) (port : σ) : Prop := attended.port = port

/-- An attended port and its port are in lockstep. -/
theorem attends_lockstep : Port.Lockstep (Attends (σ := σ)) where
  name := by rintro attended _ rfl; rfl
  patience := by rintro attended _ rfl; rfl
  pause := by rintro span attended _ rfl; rfl
  read := by rintro attended _ rfl; exact ⟨rfl, rfl⟩
  write := by rintro bytes attended _ rfl; exact ⟨rfl, rfl⟩
  flush := by rintro attended _ rfl; exact ⟨rfl, rfl⟩
  clear := by rintro attended _ rfl; exact ⟨rfl, rfl⟩
  clearEvents := by rintro attended _ rfl; rfl
  close := by rintro attended _ rfl; exact ⟨rfl, rfl⟩
  closeEvents := by rintro attended _ rfl; rfl

/-- Nothing that an upload does to a port tells whether it is attended. -/
theorem attends_simulation : Port.Simulation (Attends (σ := σ)) := attends_lockstep.simulation

/-- A read is heard and changes the port. -/
theorem read_attended (attended : Attended σ) :
    Port.read attended =
      ((Port.read attended.port).1,
        { attended.hear (Port.read attended.port).1 with port := (Port.read attended.port).2 }) :=
  rfl

/-- The line that is collected behind some bytes of it is written down with them. -/
theorem collectLine_attended {patience : Nat} {bytes : List UInt8} {attended : Attended σ}
    (current : attended.current = (patience, bytes)) :
    Port.collectLine patience attended =
      ((Port.collectLine patience attended.port).1,
        { attended.complete ((Port.collectLine patience attended.port).1.map (bytes ++ ·)) with
          port := (Port.collectLine patience attended.port).2 }) := by
  induction patience generalizing bytes attended with
  | zero =>
    rw [Port.collectLine_zero, Port.collectLine_zero, read_attended, hear, current]
    cases Port.verdict (Port.read attended.port).1 <;> rfl
  | succ patience ih =>
    rw [Port.collectLine_succ, Port.collectLine_succ, read_attended, hear, current]
    cases Port.verdict (Port.read attended.port).1 with
    | ends last => rfl
    | fails error => rfl
    | continues more =>
      let next : Attended σ := { attended with
        port := (Port.read attended.port).2
        line := some (patience, bytes ++ more) }
      have opened : next.current = (patience, bytes ++ more) := rfl
      change ((Port.collectLine patience next).1.map (more ++ ·),
        (Port.collectLine patience next).2) = _
      rw [ih opened]
      cases (Port.collectLine patience next.port).1 with
      | error error => rfl
      | ok later =>
        refine Prod.ext rfl ?_
        simp only [complete, Except.map, List.append_assoc]
        rfl

/-- **A line that is read from the start is written down.** -/
theorem readLine_attended {attended : Attended σ} (between : attended.line = none) :
    Port.readLine attended =
      ((Port.readLine attended.port).1,
        { attended with
          port := (Port.readLine attended.port).2
          lines := attended.lines ++ [(Port.readLine attended.port).1] }) := by
  have opened : attended.current = (Port.patience attended.port, []) := by
    rw [current, between]
    rfl
  rw [Port.readLine_eq, Port.readLine_eq]
  change ((Port.collectLine (Port.patience attended.port) attended).1.map _,
    (Port.collectLine (Port.patience attended.port) attended).2) = _
  rw [collectLine_attended opened, complete, between]
  cases (Port.collectLine (Port.patience attended.port) attended.port).1 <;> rfl

end Attended

namespace Device

/-- Reading a line sends nothing. -/
theorem readLine_responder (device : Device) :
    (Port.readLine device).2.responder = device.responder := by
  let same (other : Device) : Prop := other.responder = device.responder
  have read {other : Device} (held : same other) : same (Port.read other).2 :=
    other.read_responder.trans held
  have kept : same (Port.readLine device).2 := Port.readLine_keeps read rfl
  exact kept

end Device

namespace Attended

/-- The last write ended the delivery of a buffer with an error: this is what of the buffer it was
offered. -/
structure Stopped {σ : Type} (attended : Attended σ) (rest : List UInt8) (error : PortError) :
    Prop where
  present : rest ≠ []
  offered : ∃ result, attended.offer = some (rest, result) ∧
    (Operation.write rest result).failure? = some error

/-- A write hands over what its outcome says. -/
theorem write_attended {bytes : List UInt8} {attended next : Attended Device}
    {result : WriteResult} (wrote : Port.write bytes attended = (result, next)) :
    ∃ rules, next = { attended with
      port := attended.port.took (Operation.accepted (.write bytes result)) rules
      offer := some (bytes, result) } := by
  obtain ⟨rules, took⟩ := Device.write_took bytes attended.port
  have written : Port.write bytes attended = ((Port.write bytes attended.port).1, { attended with
      port := (Port.write bytes attended.port).2
      offer := some (bytes, (Port.write bytes attended.port).1) }) := rfl
  rw [took] at written
  obtain ⟨rfl, rfl⟩ := Prod.mk.inj (written.symm.trans wrote)
  exact ⟨rules, rfl⟩

/-- A buffer is handed over to its end, or to what the write that ended it was offered. -/
theorem writeAll_attended (bytes : List UInt8) (attended : Attended Device) :
    ∃ taken rest rules offer, bytes = taken ++ rest ∧
      (Port.writeAll bytes attended).2 =
        { attended with port := attended.port.took taken rules, offer } ∧
      ((Port.writeAll bytes attended).1 = .ok () ∧ rest = [] ∨
        ∃ error, (Port.writeAll bytes attended).1 = .error error ∧
          (Port.writeAll bytes attended).2.Stopped rest (.channel error)) := by
  -- One case for each outcome of a write, which is also what the observer wrote down last.
  induction bytes, attended using Port.writeAll.induct with
  | case1 attended =>
    refine ⟨[], [], attended.port.writes, attended.offer, rfl, ?_, .inl ⟨?_, rfl⟩⟩
    · rw [Port.writeAll_nil, Device.took_nil]
    · rw [Port.writeAll_nil]
  | case2 attended byte rest next result =>
    obtain ⟨rules, rfl⟩ := write_attended result
    rw [Port.writeAll_cons, result]
    exact ⟨[], byte :: rest, rules, _, rfl, rfl,
      .inr ⟨_, rfl, List.cons_ne_nil _ _, _, rfl, rfl⟩⟩
  | case3 attended byte rest count next result _ ih =>
    obtain ⟨rules, rfl⟩ := write_attended result
    obtain ⟨taken, left, later, offer, split, took, outcome⟩ := ih
    rw [Port.writeAll_cons, result]
    refine ⟨(byte :: rest).take (count + 1) ++ taken, left, later, offer, ?_, ?_, outcome⟩
    · rw [List.append_assoc, ← split, List.take_succ_cons, List.cons_append,
        List.take_append_drop]
    · simp only [took]
      rw [← Device.took_took]
      rfl
  | case4 attended byte rest error next result interrupted _ ih =>
    obtain ⟨rules, rfl⟩ := write_attended result
    obtain ⟨taken, left, later, offer, split, took, outcome⟩ := ih
    rw [Port.writeAll_cons, result]
    simp only [interrupted, ↓reduceIte]
    refine ⟨taken, left, later, offer, split, ?_, outcome⟩
    rw [took]
    simp only [Operation.accepted]
    rw [Device.took_took, List.nil_append]
  | case5 attended byte rest error next result fatal =>
    obtain ⟨rules, rfl⟩ := write_attended result
    rw [Port.writeAll_cons, result]
    simp only [fatal, ↓reduceIte]
    exact ⟨[], byte :: rest, rules, _, rfl, rfl,
      .inr ⟨_, rfl, List.cons_ne_nil _ _, _, rfl, if_neg fatal⟩⟩

/-- A command that is delivered to a far end with nothing pending is received whole, or a write ends
its delivery before the terminator is taken. The lines that were read stay as they are. -/
theorem deliver_attended {command : Command} (plain : Command.terminator ∉ command.bytes)
    {attended after : Attended Device} (idle : attended.port.responder.pending = [])
    {result : Except ChannelError Unit}
    (delivered : Port.deliver command.encode attended = (result, after)) :
    (after.line = attended.line ∧ after.lines = attended.lines) ∧
      (after.port.responder.commands = attended.port.responder.commands ++ [command.bytes] ∧
          after.port.responder.pending = [] ∨
        ∃ error rest, result = .error error ∧
          after.port.responder.commands = attended.port.responder.commands ∧
          after.port.responder.pending ++ rest = command.encode ∧
          after.Stopped rest (.channel error)) := by
  obtain ⟨taken, rest, rules, offer, split, took, outcome⟩ :=
    writeAll_attended command.encode attended
  rw [Port.deliver_eq] at delivered
  rcases written : Port.writeAll command.encode attended with ⟨error | ⟨⟩, next⟩ <;>
    rw [written] at delivered took outcome <;> obtain rfl := took
  · -- A write failed with some of the buffer left, so the terminator was not taken.
    rcases outcome with ⟨done, _⟩ | ⟨_, same, stopped⟩
    · cases done
    cases same
    cases delivered
    have part : taken <+: command.bytes ++ [Command.terminator] := ⟨rest, split.symm⟩
    have cut : taken <+: command.bytes := by
      rcases List.prefix_concat_iff.mp part with whole | cut
      · rw [whole] at split
        exact absurd (List.append_right_eq_self.mp split.symm) stopped.present
      · exact cut
    have received := attended.port.responder.receive_plain fun inside => plain (cut.subset inside)
    rw [idle, List.nil_append] at received
    have heard : (attended.port.took taken rules).responder =
        { attended.port.responder with pending := taken } := congrArg Prod.snd received
    refine ⟨⟨rfl, rfl⟩, .inr ⟨error, rest, rfl, ?_, ?_, stopped⟩⟩
    · simp only [heard]
    · simp only [heard, split]
  · -- All was taken, so what a flush comes to does not matter any more.
    rcases outcome with ⟨_, rfl⟩ | ⟨_, same, _⟩
    · rw [List.append_nil] at split
      have received := attended.port.responder.receive_command plain idle
      have heard : (attended.port.took taken rules).responder = { attended.port.responder with
          commands := attended.port.responder.commands ++ [command.bytes], pending := [] } := by
        rw [← split]
        exact congrArg Prod.snd received
      have same := (attended.port.took taken rules).flush_responder
      cases delivered
      refine ⟨⟨rfl, rfl⟩, .inl ?_⟩
      change (Port.flush (attended.port.took taken rules)).2.responder.commands = _ ∧
        (Port.flush (attended.port.took taken rules)).2.responder.pending = []
      rw [same, heard]
      exact ⟨rfl, rfl⟩
    · cases same

end Attended

end CertConsole
