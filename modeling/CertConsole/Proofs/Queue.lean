import CertConsole.Port.Device
import CertConsole.Proofs.Port

/-!
# The first line of a queue

What a line read takes from the queue of an open device. With a timeout that outlasts what is
waiting the device is only asked for items from the front, so the line that is read is a function of
the queue and of the signal that an empty queue meets (`takeLine`, `readLine_open`).
-/
namespace CertConsole

/-- What a read of an item finds. -/
def Item.found : Item → ReadResult
  | .byte value => .byte value
  | .signal met => Device.readSignal met

/-- A signal that only says that there is no data. -/
def Signal.Silent : Signal → Prop
  | .endOfData => True
  | .failure error => error.isSilence = true

/-- Silence ends a line. -/
theorem Signal.Silent.verdict_ends {signal : Signal} (silent : signal.Silent) :
    Port.verdict (Device.readSignal signal) = .ends [] := by
  cases signal with
  | endOfData => rfl
  | failure error =>
    have silence : error.isSilence = true := silent
    have other : error.kind ≠ .interrupted := by
      intro interrupted
      rw [ChannelError.isSilence, interrupted] at silence
      cases silence
    simp [Device.readSignal, Port.verdict, other, silence]

namespace Device

/-- The bytes of the first line of a queue, or the error that loses it, and the items behind it.
A line that the queue does not end is over where the queue is. -/
def takeLine (idle : Signal) : List Item → Except ChannelError (List UInt8) × List Item
  | [] =>
    match Port.verdict (readSignal idle) with
    | .ends bytes | .continues bytes => (.ok bytes, [])
    | .fails error => (.error error, [])
  | item :: rest =>
    match Port.verdict item.found with
    | .ends bytes => (.ok bytes, rest)
    | .fails error => (.error error, rest)
    | .continues bytes => ((takeLine idle rest).1.map (bytes ++ ·), (takeLine idle rest).2)

/-- A device after reads that left a queue. -/
def left (device : Device) (queue : List Item) (reads : Nat) : Device :=
  { device with queue, readCount := reads }

variable {device : Device}

/-- A closed device is not read. -/
theorem read_closed (closed : device.isClosed = true) :
    Port.read device = (.failed .portClosed, device) := by
  change device.read = _
  unfold read
  rw [if_pos closed]

/-- An open device is read at the front of its queue. -/
theorem read_cons (opened : device.isClosed = false) {item : Item} {rest : List Item}
    (queue : device.queue = item :: rest) :
    Port.read device = (item.found, device.left rest (device.readCount + 1)) := by
  change device.read = _
  unfold read
  rw [if_neg (Bool.eq_false_iff.mp opened), queue]
  cases item <;> rfl

/-- A read of an empty queue meets the idle signal. -/
theorem read_nil (opened : device.isClosed = false) (queue : device.queue = []) :
    Port.read device = (readSignal device.idle, device.left [] (device.readCount + 1)) := by
  change device.read = _
  unfold read left
  rw [if_neg (Bool.eq_false_iff.mp opened), queue]

/-- Input of an open device is discarded unless the script says that this fails. -/
theorem clear_open (opened : device.isClosed = false) :
    Port.clear device =
      match outcome device.clears with
      | .ok () => (.ok (), { device with
          clears := device.clears.tail, clearCount := device.clearCount + 1, queue := [] })
      | .error error => (.error error, { device with
          clears := device.clears.tail, clearCount := device.clearCount + 1 }) :=
  if_neg (Bool.eq_false_iff.mp opened)

/-- A closed device has nothing to discard. -/
theorem clear_closed (closed : device.isClosed = true) :
    Port.clear device = (.ok (), { device with clearCount := device.clearCount + 1 }) :=
  if_pos closed

/-- Reading sends nothing. -/
theorem read_responder (device : Device) :
    (Port.read device).2.responder = device.responder := by
  cases closed : device.isClosed with
  | true => rw [read_closed closed]
  | false =>
    cases waiting : device.queue with
    | nil => rw [read_nil closed waiting]; rfl
    | cons item rest => rw [read_cons closed waiting]; rfl

/-- Discarding input sends nothing. -/
theorem clear_responder (device : Device) :
    (Port.clear device).2.responder = device.responder := by
  cases closed : device.isClosed with
  | true => rw [clear_closed closed]
  | false =>
    rw [clear_open closed]
    cases outcome device.clears <;> rfl

/-- From an open device the first line of its queue is collected. -/
theorem collectLine_open (opened : device.isClosed = false) :
    ∃ reads, Port.collectLine device.queue.length device =
      ((takeLine device.idle device.queue).1,
        device.left (takeLine device.idle device.queue).2 reads) := by
  -- On the items that are waiting: each read takes one and costs one of the patience.
  generalize waiting : device.queue = queue
  induction queue generalizing device with
  | nil =>
    refine ⟨device.readCount + 1, ?_⟩
    rw [List.length_nil, Port.collectLine_zero, read_nil opened waiting, takeLine]
    cases Port.verdict (readSignal device.idle) <;> rfl
  | cons item rest ih =>
    rw [List.length_cons, Port.collectLine_succ, read_cons opened waiting, takeLine]
    have stillOpen : (device.left rest (device.readCount + 1)).isClosed = false := opened
    obtain ⟨reads, collected⟩ := ih stillOpen rfl
    cases Port.verdict item.found with
    | ends bytes => exact ⟨device.readCount + 1, rfl⟩
    | fails error => exact ⟨device.readCount + 1, rfl⟩
    | continues bytes =>
      refine ⟨reads, ?_⟩
      simp only [collected]
      rfl

/-- The line that is read from an open device with time is the first one of its queue. -/
theorem readLine_open (opened : device.isClosed = false) (timely : device.timeout ≠ 0) :
    ∃ reads, Port.readLine device =
      ((takeLine device.idle device.queue).1.map Reply.decodeLine,
        device.left (takeLine device.idle device.queue).2 reads) := by
  obtain ⟨reads, collected⟩ := collectLine_open opened
  have patient : Port.patience device = device.queue.length := if_neg timely
  refine ⟨reads, ?_⟩
  rw [Port.readLine_eq, patient, collected]

/-- Nothing is collected from a closed device, however much time there is. -/
theorem collectLine_closed (closed : device.isClosed = true) (patience : Nat) :
    Port.collectLine patience device = (.error .portClosed, device) := by
  have lost : Port.verdict (.failed .portClosed) = .fails .portClosed := rfl
  cases patience with
  | zero => rw [Port.collectLine_zero, read_closed closed, lost]
  | succ patience => rw [Port.collectLine_succ, read_closed closed, lost]

/-- No line is read from a closed device. -/
theorem readLine_closed (closed : device.isClosed = true) :
    Port.readLine device = (.error .portClosed, device) := by
  rw [Port.readLine_eq, collectLine_closed closed]
  rfl

/-- A line that ends with its line feed is taken to there, whatever an empty queue meets. -/
theorem takeLine_line (idle : Signal) {body : List UInt8} (plain : Port.lineFeed ∉ body)
    (rest : List Item) :
    takeLine idle ((body ++ [Port.lineFeed]).map .byte ++ rest) =
      (.ok (body ++ [Port.lineFeed]), rest) := by
  induction body with
  | nil =>
    have last : Port.verdict (Item.byte Port.lineFeed).found = .ends [Port.lineFeed] := by
      rw [Item.found, Port.verdict, if_pos rfl]
    rw [List.nil_append, List.map_singleton, List.singleton_append, takeLine]
    simp only [last]
  | cons byte body ih =>
    have inner : byte ≠ Port.lineFeed := fun same => plain (same ▸ List.mem_cons_self)
    have goesOn : Port.verdict (Item.byte byte).found = .continues [byte] := if_neg inner
    have later := ih fun inside => plain (List.mem_cons_of_mem byte inside)
    rw [List.cons_append, List.map_cons, List.cons_append, takeLine]
    simp only [goesOn, later]
    rfl

end Device

end CertConsole
