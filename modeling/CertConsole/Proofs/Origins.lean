import CertConsole.Proofs.Delivery
import CertConsole.Proofs.LineConsole

/-!
# Where input comes from

A traced device is a device that knows of each item in its queue which command it answers. It does
what the device does (`traces_lockstep`), so the origin of what an upload reads from a device can be
told. The queue is first in, first out: a line is made of the items at its front (`readLine_ok`),
and the answers to what is delivered join it at its back (`deliver_ok`).
-/
namespace CertConsole

/-- What made an item arrive. -/
inductive Origin where
  /-- It was there before. -/
  | earlier
  /-- It is a part of the answer to a command, by the number of the command from zero. -/
  | answer (command : Nat)
  deriving DecidableEq, Repr

/-- An item that arrived, and why it did. -/
structure Arrival where
  /-- What made it arrive. -/
  origin : Origin
  /-- The item. -/
  item : Item
  deriving DecidableEq, Repr

/-- The bytes among what arrived. -/
def Arrival.bytes (arrivals : List Arrival) : List UInt8 := arrivals.filterMap (·.item.byte?)

namespace Responder

/-- The answers to bytes, each item with the number of the command that it answers. -/
def arrivals : List UInt8 → Responder → List Arrival
  | [], _ => []
  | byte :: bytes, responder =>
    let (answer, next) := responder.receiveByte byte
    answer.map (⟨.answer responder.commands.length, ·⟩) ++ arrivals bytes next

/-- The first byte is answered, and then the others. -/
theorem arrivals_cons (byte : UInt8) (bytes : List UInt8) (responder : Responder) :
    responder.arrivals (byte :: bytes) =
      (responder.receiveByte byte).1.map (⟨.answer responder.commands.length, ·⟩) ++
        (responder.receiveByte byte).2.arrivals bytes := rfl

/-- Without their origins the arrivals are the answers. -/
theorem arrivals_items (bytes : List UInt8) (responder : Responder) :
    (responder.arrivals bytes).map Arrival.item = (responder.receive bytes).1 := by
  induction bytes generalizing responder with
  | nil => rfl
  | cons byte bytes ih =>
    rw [arrivals_cons, receive_cons, List.map_append, ih, List.map_map]
    simp only [Function.comp_def, List.map_id']

/-- What arrives in two parts is answered part after part. -/
theorem arrivals_append (before after : List UInt8) (responder : Responder) :
    responder.arrivals (before ++ after) =
      responder.arrivals before ++ (responder.receive before).2.arrivals after := by
  induction before generalizing responder with
  | nil => rfl
  | cons byte before ih =>
    rw [List.cons_append, arrivals_cons, arrivals_cons, ih, receive_cons, List.append_assoc]

/-- Bytes without a terminator are not answered. -/
theorem arrivals_plain {bytes : List UInt8} (plain : Command.terminator ∉ bytes)
    (responder : Responder) : responder.arrivals bytes = [] := by
  have silent := congrArg Prod.fst (receive_plain plain responder)
  rw [← arrivals_items] at silent
  exact List.map_eq_nil_iff.mp silent

/-- A command that is received in one piece is answered with its own number. -/
theorem arrivals_command {bytes : List UInt8} (plain : Command.terminator ∉ bytes)
    (responder : Responder) (idle : responder.pending = []) :
    responder.arrivals (bytes ++ [Command.terminator]) =
      (responder.answer (.ofBytes bytes)).map (⟨.answer responder.commands.length, ·⟩) := by
  rw [arrivals_append, arrivals_plain plain, receive_plain plain, arrivals_cons, receiveByte,
    if_pos rfl, idle]
  simp only [arrivals, List.nil_append, List.append_nil]
  rfl

/-- A command that is received adds itself to the list of commands. -/
theorem receiveByte_length (byte : UInt8) (responder : Responder) :
    responder.commands.length ≤ (responder.receiveByte byte).2.commands.length ∧
      ((responder.receiveByte byte).1 ≠ [] →
        responder.commands.length < (responder.receiveByte byte).2.commands.length) := by
  unfold receiveByte
  by_cases last : byte = Command.terminator
  · simp [last]
  · simp [last]

/-- What arrives answers one of the commands that the bytes complete. -/
theorem arrivals_within (bytes : List UInt8) (responder : Responder) :
    responder.commands.length ≤ (responder.receive bytes).2.commands.length ∧
      ∀ arrival ∈ responder.arrivals bytes, ∃ command, arrival.origin = .answer command ∧
        responder.commands.length ≤ command ∧
        command < (responder.receive bytes).2.commands.length := by
  induction bytes generalizing responder with
  | nil => exact ⟨Nat.le_refl _, nofun⟩
  | cons byte bytes ih =>
    obtain ⟨grows, answers⟩ := responder.receiveByte_length byte
    obtain ⟨later, others⟩ := ih (responder.receiveByte byte).2
    rw [receive_cons, arrivals_cons]
    refine ⟨Nat.le_trans grows later, fun arrival inside => ?_⟩
    rcases List.mem_append.mp inside with own | other
    · obtain ⟨item, answered, rfl⟩ := List.mem_map.mp own
      have completed := answers (List.ne_nil_of_mem answered)
      exact ⟨_, rfl, Nat.le_refl _, Nat.lt_of_lt_of_le completed later⟩
    · obtain ⟨command, origin, lower, upper⟩ := others arrival other
      exact ⟨command, origin, Nat.le_trans grows lower, upper⟩

/-- After a terminator nothing is pending. -/
theorem receive_ended (bytes : List UInt8) (responder : Responder) :
    (responder.receive (bytes ++ [Command.terminator])).2.pending = [] := by
  rw [receive_append, receive_cons, receiveByte, if_pos rfl, receive]

end Responder

namespace Device

/-- Reading takes from the front of the queue, if at all. -/
theorem read_suffix (device : Device) : (Port.read device).2.queue <:+ device.queue := by
  cases closed : device.isClosed with
  | true => exact ⟨[], by rw [List.nil_append, read_closed closed]⟩
  | false =>
    rcases waiting : device.queue with _ | ⟨item, rest⟩
    · rw [read_nil closed waiting]
      exact List.suffix_refl []
    · rw [read_cons closed waiting]
      exact List.suffix_cons item rest

/-- Discarding input leaves nothing or everything. -/
theorem clear_suffix (device : Device) : (Port.clear device).2.queue <:+ device.queue := by
  cases closed : device.isClosed with
  | true => exact ⟨[], by rw [List.nil_append, clear_closed closed]⟩
  | false =>
    rw [clear_open closed]
    rcases outcome device.clears with _ | _
    · exact List.suffix_refl _
    · exact List.nil_suffix

/-- Flushing leaves the queue and the far end alone. -/
theorem flush_same (device : Device) : (Port.flush device).2.queue = device.queue ∧
    (Port.flush device).2.responder = device.responder := by
  cases closed : device.isClosed with
  | true =>
    rw [flush_closed closed]
    exact ⟨rfl, rfl⟩
  | false =>
    rw [flush_open closed]
    exact ⟨rfl, rfl⟩

end Device

/-- A device that knows of each item in its queue why it arrived. -/
structure Traced where
  /-- The device. -/
  device : Device
  /-- What has arrived and was not read. -/
  waiting : List Arrival
  /-- Without their origins the arrivals are the queue. -/
  aligned : waiting.map Arrival.item = device.queue

namespace Traced

/-- A traced device once the device has given up what is in front of a part of its queue. -/
def shrink (traced : Traced) (next : Device) (part : next.queue <:+ traced.device.queue) :
    Traced where
  device := next
  waiting := traced.waiting.drop (traced.waiting.length - next.queue.length)
  aligned := by
    have sized : traced.waiting.length = traced.device.queue.length := by
      rw [← traced.aligned, List.length_map]
    rw [List.map_drop, traced.aligned, sized]
    exact (List.suffix_iff_eq_drop.mp part).symm

/-- A traced device once the device has done something that leaves the queue alone. -/
def keep (traced : Traced) (next : Device) (same : next.queue = traced.device.queue) :
    Traced where
  device := next
  waiting := traced.waiting
  aligned := traced.aligned.trans same.symm

/-- A traced device once the device has taken bytes, whose answers join the queue. -/
def extend (traced : Traced) (next : Device) (bytes : List UInt8)
    (took : ∃ rules, next = traced.device.took bytes rules) : Traced where
  device := next
  waiting := traced.waiting ++ traced.device.responder.arrivals bytes
  aligned := by
    obtain ⟨rules, rfl⟩ := took
    rw [List.map_append, traced.aligned, Responder.arrivals_items]
    rfl

instance : Port Traced where
  name traced := Port.name traced.device
  patience traced := Port.patience traced.device
  read traced := ((Port.read traced.device).1,
    traced.shrink (Port.read traced.device).2 traced.device.read_suffix)
  write bytes traced := ((Port.write bytes traced.device).1,
    traced.extend (Port.write bytes traced.device).2 _ (traced.device.write_took bytes))
  flush traced := ((Port.flush traced.device).1,
    traced.keep (Port.flush traced.device).2 traced.device.flush_same.1)
  clear traced := ((Port.clear traced.device).1,
    traced.shrink (Port.clear traced.device).2 traced.device.clear_suffix)
  clearEvents traced := Port.clearEvents traced.device
  close traced := ((Port.close traced.device).1, traced.keep (Port.close traced.device).2 rfl)
  closeEvents traced := Port.closeEvents traced.device
  pause span traced := traced.keep (Port.pause span traced.device) rfl
  stalls traced := Port.stalls traced.device
  stalls_of_interrupted bytes traced error traced' written interrupted := by
    obtain ⟨failed, rfl⟩ := Prod.mk.inj written
    exact Port.stalls_of_interrupted bytes traced.device error _ (Prod.ext failed rfl) interrupted
  stalls_of_accepted bytes traced count traced' written := by
    obtain ⟨accepted, rfl⟩ := Prod.mk.inj written
    exact Port.stalls_of_accepted bytes traced.device count _ (Prod.ext accepted rfl)

/-- The state of a traced device is that of its device. -/
abbrev Traces (traced : Traced) (device : Device) : Prop := traced.device = device

/-- A traced device and its device are in lockstep. -/
theorem traces_lockstep : Port.Lockstep Traces where
  name := by rintro traced _ rfl; rfl
  patience := by rintro traced _ rfl; rfl
  pause := by rintro span traced _ rfl; rfl
  read := by rintro traced _ rfl; exact ⟨rfl, rfl⟩
  write := by rintro bytes traced _ rfl; exact ⟨rfl, rfl⟩
  flush := by rintro traced _ rfl; exact ⟨rfl, rfl⟩
  clear := by rintro traced _ rfl; exact ⟨rfl, rfl⟩
  clearEvents := by rintro traced _ rfl; rfl
  close := by rintro traced _ rfl; exact ⟨rfl, rfl⟩
  closeEvents := by rintro traced _ rfl; rfl

/-- Nothing that an upload does to a device tells whether it is traced. -/
theorem traces_simulation : Port.Simulation Traces := traces_lockstep.simulation

/-- The first device has given up some arrivals from its front, and the second one has the others;
nothing was sent in between. -/
structure Gave (taken : List Arrival) (before after : Traced) : Prop where
  waiting : before.waiting = taken ++ after.waiting
  responder : after.device.responder = before.device.responder

namespace Gave

variable {traced before between after : Traced}

theorem nothing (traced : Traced) : Gave [] traced traced := ⟨rfl, rfl⟩

/-- What is given up in two steps is given up. -/
theorem trans {first second : List Arrival} (head : Gave first before between)
    (tail : Gave second between after) : Gave (first ++ second) before after where
  waiting := by rw [head.waiting, tail.waiting, List.append_assoc]
  responder := tail.responder.trans head.responder

/-- What was given up is what is missing. -/
theorem eq_take {taken : List Arrival} (gave : Gave taken before after) :
    before.waiting.take (before.waiting.length - after.waiting.length) = taken := by
  rw [gave.waiting, List.length_append, Nat.add_sub_cancel, List.take_left]

end Gave

/-- What is given up when the queue shrinks to the size of a part at its back. -/
theorem shrink_gave {traced : Traced} {next : Device} (part : next.queue <:+ traced.device.queue)
    {taken rest : List Arrival} (split : traced.waiting = taken ++ rest)
    (size : next.queue.length = rest.length)
    (same : next.responder = traced.device.responder) :
    Gave taken traced (traced.shrink next part) where
  waiting := by
    change _ = taken ++ traced.waiting.drop (traced.waiting.length - next.queue.length)
    rw [size, split, List.length_append, Nat.add_sub_cancel, List.drop_left]
  responder := same

end Traced

/-- The bytes that a read adds to a line. -/
def Port.Verdict.bytes : Port.Verdict → List UInt8
  | .ends bytes | .continues bytes => bytes
  | .fails _ => []

/-- A signal adds nothing to a line. -/
theorem Signal.verdict_bytes (signal : Signal) :
    (Port.verdict (Device.readSignal signal)).bytes = [] := by
  cases signal with
  | endOfData => rfl
  | failure error =>
    by_cases interrupted : error.kind = .interrupted
    · simp [Device.readSignal, Port.verdict, Port.Verdict.bytes, interrupted]
    · by_cases silent : error.isSilence = true <;>
        simp [Device.readSignal, Port.verdict, Port.Verdict.bytes, interrupted, silent]

/-- A read of an item adds the byte that the item is. -/
theorem Item.verdict_bytes (item : Item) :
    (Port.verdict item.found).bytes = item.byte?.toList := by
  cases item with
  | byte value =>
    by_cases last : value = Port.lineFeed <;>
      simp [found, Port.verdict, Port.Verdict.bytes, byte?, last]
  | signal met => exact met.verdict_bytes

namespace Traced

variable {traced : Traced}

/-- A read takes at most what is at the front, and a line gets the bytes of what it takes. -/
theorem read_gave (traced : Traced) :
    ∃ taken, Gave taken traced (Port.read traced).2 ∧
      (Port.verdict (Port.read traced).1).bytes = Arrival.bytes taken := by
  have found : (Port.read traced).1 = (Port.read traced.device).1 := rfl
  rw [found]
  have sized : traced.device.queue.length = traced.waiting.length := by
    rw [← traced.aligned, List.length_map]
  cases closed : traced.device.isClosed with
  | true =>
    have unread := Device.read_closed closed
    have kept : Gave [] traced (Port.read traced).2 :=
      shrink_gave traced.device.read_suffix (List.nil_append _).symm (by rw [unread]; exact sized)
        (by rw [unread])
    exact ⟨[], kept, by rw [unread]; rfl⟩
  | false =>
    have queue := traced.aligned
    rcases waiting : traced.waiting with _ | ⟨arrival, rest⟩
    · rw [waiting] at queue
      have unread := Device.read_nil closed queue.symm
      have kept : Gave [] traced (Port.read traced).2 :=
        shrink_gave traced.device.read_suffix waiting (by rw [unread]; rfl) (by rw [unread]; rfl)
      refine ⟨[], kept, ?_⟩
      rw [unread]
      exact traced.device.idle.verdict_bytes
    · rw [waiting] at queue
      have front := Device.read_cons closed queue.symm
      have gave : Gave [arrival] traced (Port.read traced).2 :=
        shrink_gave traced.device.read_suffix waiting
          (by rw [front]; exact List.length_map Arrival.item) (by rw [front]; rfl)
      refine ⟨[arrival], gave, ?_⟩
      rw [front, arrival.item.verdict_bytes, Arrival.bytes, List.filterMap_cons]
      cases arrival.item.byte? <;> rfl

/-- A line that is collected has the bytes of what is taken from the front. -/
theorem collectLine_gave (patience : Nat) {bytes : List UInt8}
    (collected : (Port.collectLine patience traced).1 = .ok bytes) :
    ∃ taken, Gave taken traced (Port.collectLine patience traced).2 ∧
      bytes = Arrival.bytes taken := by
  -- On the patience: each read takes its share, and what goes on is collected behind it.
  induction patience generalizing traced bytes with
  | zero =>
    obtain ⟨taken, gave, heard⟩ := read_gave traced
    rw [Port.collectLine_zero] at collected ⊢
    cases judged : Port.verdict (Port.read traced).1 <;> rw [judged] at heard <;>
      simp only [judged] at collected <;> cases collected
    · exact ⟨taken, gave, heard⟩
    · exact ⟨taken, gave, heard⟩
  | succ patience ih =>
    obtain ⟨taken, gave, heard⟩ := read_gave traced
    rw [Port.collectLine_succ] at collected ⊢
    cases judged : Port.verdict (Port.read traced).1 with
    | ends first =>
      rw [judged] at heard
      simp only [judged] at collected
      cases collected
      exact ⟨taken, gave, heard⟩
    | fails error =>
      simp only [judged] at collected
      cases collected
    | continues first =>
      rw [judged] at heard
      simp only [judged] at collected
      rcases rest : (Port.collectLine patience (Port.read traced).2).1 with error | later <;>
        rw [rest] at collected <;> cases collected
      obtain ⟨more, gaveMore, heardMore⟩ := ih rest
      refine ⟨taken ++ more, gave.trans gaveMore, ?_⟩
      rw [Arrival.bytes, List.filterMap_append, heardMore]
      exact congrArg (· ++ _) heard

/-- **A line is made of what is at the front of the queue.** -/
theorem readLine_ok {line : String} (found : (Port.readLine traced).1 = .ok line) :
    ∃ taken, Gave taken traced (Port.readLine traced).2 ∧
      line = Reply.decodeLine (Arrival.bytes taken) := by
  rw [Port.readLine_eq] at found ⊢
  rcases outcome : (Port.collectLine (Port.patience traced) traced).1 with error | bytes <;>
    simp only [outcome] at found <;> cases found
  obtain ⟨taken, gave, rfl⟩ := collectLine_gave _ outcome
  exact ⟨taken, gave, rfl⟩

/-- The second device is the first one once its far end has received some bytes. -/
structure Took (bytes : List UInt8) (before after : Traced) : Prop where
  waiting : after.waiting = before.waiting ++ before.device.responder.arrivals bytes
  responder : after.device.responder = (before.device.responder.receive bytes).2

namespace Took

variable {before between after : Traced}

theorem nothing (traced : Traced) : Took [] traced traced :=
  ⟨(List.append_nil _).symm, rfl⟩

/-- Bytes that are received in two parts are received. -/
theorem trans {first second : List UInt8} (head : Took first before between)
    (tail : Took second between after) : Took (first ++ second) before after where
  waiting := by
    rw [tail.waiting, head.waiting, head.responder, Responder.arrivals_append,
      List.append_assoc]
  responder := by rw [tail.responder, head.responder, Responder.receive_append]

end Took

/-- A write hands over as much as its result says. -/
theorem write_took (bytes : List UInt8) (traced : Traced) :
    Took (Operation.accepted (.write bytes (Port.write bytes traced).1)) traced
      (Port.write bytes traced).2 where
  waiting := rfl
  responder := by
    obtain ⟨rules, took⟩ := traced.device.write_took bytes
    exact congrArg Device.responder took

/-- A buffer that is written to its end is received. -/
theorem writeAll_ok (bytes : List UInt8) (traced : Traced)
    (written : (Port.writeAll bytes traced).1 = .ok ()) :
    Took bytes traced (Port.writeAll bytes traced).2 := by
  induction bytes, traced using Port.writeAll.induct with
  | case1 traced =>
    rw [Port.writeAll_nil]
    exact .nothing traced
  | case2 traced byte rest next result =>
    rw [Port.writeAll_cons, result] at written
    cases written
  | case3 traced byte rest count next result _ ih =>
    have head := write_took (byte :: rest) traced
    rw [Port.writeAll_cons, result] at written ⊢
    rw [result] at head
    have whole := head.trans (ih written)
    rw [Operation.accepted, List.take_succ_cons, List.cons_append, List.take_append_drop] at whole
    exact whole
  | case4 traced byte rest error next result interrupted _ ih =>
    have head := write_took (byte :: rest) traced
    rw [Port.writeAll_cons, result] at written ⊢
    rw [result] at head
    simp only [interrupted, ↓reduceIte] at written ⊢
    exact head.trans (ih written)
  | case5 traced byte rest error next result fatal =>
    rw [Port.writeAll_cons, result] at written
    simp only [fatal, ↓reduceIte] at written
    cases written

/-- **The answers to what is delivered join the queue at its back.** -/
theorem deliver_ok {bytes : List UInt8} (delivered : (Port.deliver bytes traced).1 = .ok ()) :
    Took bytes traced (Port.deliver bytes traced).2 := by
  rw [Port.deliver_eq] at delivered ⊢
  rcases written : Port.writeAll bytes traced with ⟨error | ⟨⟩, next⟩
  · rw [written] at delivered
    cases delivered
  · have took := writeAll_ok bytes traced (by rw [written])
    have flushed : Took [] next (Port.flush next).2 :=
      ⟨(List.append_nil _).symm, next.device.flush_same.2⟩
    rw [written] at took
    have whole := took.trans flushed
    rw [List.append_nil] at whole
    exact whole

/-- A device that something was delivered to is open. -/
theorem deliver_opened {bytes : List UInt8}
    (delivered : (Port.deliver bytes traced).1 = .ok ()) : traced.device.isClosed = false := by
  have same : (Port.deliver bytes traced).1 = (Port.deliver bytes traced.device).1 :=
    (traces_simulation.deliver bytes rfl).1
  rw [same] at delivered
  cases closed : traced.device.isClosed with
  | false => rfl
  | true =>
    rw [Device.deliver_closed closed] at delivered
    cases delivered

/-- After input was discarded nothing waits in a device that is open. -/
theorem clear_ok (cleared : (Port.clear traced).1 = .ok ()) :
    (Port.clear traced).2.device.responder = traced.device.responder ∧
      ((Port.clear traced).2.device.isClosed = false → (Port.clear traced).2.waiting = []) := by
  have result : (Port.clear traced).1 = (Port.clear traced.device).1 := rfl
  have device : (Port.clear traced).2.device = (Port.clear traced.device).2 := rfl
  have aligned := (Port.clear traced).2.aligned
  rw [result] at cleared
  rw [device] at aligned ⊢
  cases closed : traced.device.isClosed with
  | true =>
    rw [Device.clear_closed closed]
    exact ⟨rfl, fun opened => nomatch closed.symm.trans opened⟩
  | false =>
    rw [Device.clear_open closed] at cleared aligned ⊢
    rcases script : Device.outcome traced.device.clears with error | ⟨⟩
    · rw [script] at cleared
      cases cleared
    · rw [script] at aligned
      exact ⟨rfl, fun _ => List.map_eq_nil_iff.mp aligned⟩

end Traced

end CertConsole
