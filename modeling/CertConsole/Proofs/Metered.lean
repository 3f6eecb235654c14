import CertConsole.Proofs.FirstLine
import CertConsole.Proofs.ZeroTimeout

/-!
# Metered devices

Reading a line has no counter of its own: it goes on with every byte and every interruption. It
stops where the queue of a device ends, unless all that an empty queue does is to interrupt, and
then time stops it (`collectLine_enough`). A metered device counts the reads and the items that they
take, and a line costs one read more than it takes items (`readLine_metered`). An upload does not
notice the meters, nor that its lines have time to spare (`measures_simulation`).
-/
namespace CertConsole

/-- The signal does more than interrupt, so a line does not go on behind it. -/
def Signal.Stops (signal : Signal) : Prop := ¬Item.Inner (.signal signal)

/-- A line does not go on behind a signal that stops it. -/
theorem Signal.Stops.verdict {signal : Signal} (stops : signal.Stops) (bytes : List UInt8) :
    Port.verdict (Device.readSignal signal) ≠ .continues bytes := by
  cases kind : signal.fatal? with
  | some error =>
    rw [Signal.verdict_fatal kind]
    exact nofun
  | none =>
    rcases Signal.interrupted_or_silent kind with inner | silent
    · exact absurd inner stops
    · rw [silent.verdict_ends]
      exact nofun

/-- Silence stops a line. -/
theorem Signal.Silent.stops {signal : Signal} (silent : signal.Silent) : signal.Stops := by
  intro inner
  have ends := silent.verdict_ends
  rw [show Device.readSignal signal = (Item.signal signal).found from rfl, inner.verdict] at ends
  cases ends

namespace Device

/-- Time for all that is waiting is enough for a line, where an empty queue stops it. -/
theorem collectLine_enough {device : Device} (stops : device.idle.Stops) {patience : Nat}
    (enough : device.queue.length ≤ patience) :
    Port.collectLine patience device = Port.collectLine device.queue.length device := by
  cases opened : device.isClosed with
  | true => rw [collectLine_closed opened, collectLine_closed opened]
  | false =>
    -- On the items that are waiting: what is left behind the first one needs one less.
    generalize waiting : device.queue = queue at enough ⊢
    induction queue generalizing device patience with
    | nil =>
      cases patience with
      | zero => rfl
      | succ patience =>
        rw [List.length_nil, Port.collectLine_succ, Port.collectLine_zero,
          read_nil opened waiting]
        cases judged : Port.verdict (readSignal device.idle) with
        | ends bytes => rfl
        | fails error => rfl
        | continues bytes => exact absurd judged (stops.verdict bytes)
    | cons item rest ih =>
      cases patience with
      | zero => exact absurd enough (Nat.not_succ_le_zero _)
      | succ patience =>
        have fewer : rest.length ≤ patience := Nat.le_of_succ_le_succ enough
        have later := @ih (device.left rest (device.readCount + 1)) stops patience opened rfl fewer
        rw [List.length_cons, Port.collectLine_succ, Port.collectLine_succ,
          read_cons opened waiting, later]

end Device

/-- A device whose lines have more time than the device has, and the meters of its reads. -/
structure Metered where
  /-- The device. -/
  device : Device
  /-- How many bytes and interruptions more a line read has time for than the device has. -/
  spare : Nat
  /-- How many reads were made. -/
  reads : Nat := 0
  /-- How many items of the queue were taken by them. -/
  consumed : Nat := 0

namespace Metered

/-- One read was made, and what is missing from the queue was taken by it. -/
def count (metered : Metered) (device : Device) : Metered :=
  { metered with
    device
    reads := metered.reads + 1
    consumed := metered.consumed + (metered.device.queue.length - device.queue.length) }

/-- The meters after an operation that is no read. -/
def withDevice {α : Type} (metered : Metered) (result : α × Device) : α × Metered :=
  (result.1, { metered with device := result.2 })

instance : Port Metered where
  name metered := Port.name metered.device
  patience metered :=
    if metered.device.timeout = 0 then 0 else metered.device.queue.length + metered.spare
  read metered := ((Port.read metered.device).1, metered.count (Port.read metered.device).2)
  write bytes metered := metered.withDevice (Port.write bytes metered.device)
  flush metered := metered.withDevice (Port.flush metered.device)
  clear metered := metered.withDevice (Port.clear metered.device)
  clearEvents metered := Port.clearEvents metered.device
  close metered := metered.withDevice (Port.close metered.device)
  closeEvents metered := Port.closeEvents metered.device
  pause span metered := { metered with device := Port.pause span metered.device }
  stalls metered := Port.stalls metered.device
  stalls_of_interrupted bytes metered error metered' written interrupted := by
    obtain ⟨failed, rfl⟩ := Prod.mk.inj written
    exact Port.stalls_of_interrupted bytes metered.device error _ (Prod.ext failed rfl) interrupted
  stalls_of_accepted bytes metered count metered' written := by
    obtain ⟨accepted, rfl⟩ := Prod.mk.inj written
    exact Port.stalls_of_accepted bytes metered.device count _ (Prod.ext accepted rfl)

/-- No time to spare is needed: an empty queue stops a line, or there is none. -/
def Sufficient (metered : Metered) : Prop := metered.device.idle.Stops ∨ metered.spare = 0

/-- The device has counted no more reads than the meter since it had counted that many, and no time
to spare is needed. -/
structure Sound (base : Nat) (metered : Metered) : Prop where
  counted : metered.device.readCount ≤ base + metered.reads
  sufficient : metered.Sufficient

/-- An operation that is no read leaves the meters as they are. -/
theorem Sound.unread {base : Nat} {metered : Metered} (sound : metered.Sound base)
    {device : Device} (unread : metered.device.Unread device) :
    Sound base { metered with device } where
  counted := unread.readCount ▸ sound.counted
  sufficient := sound.sufficient.imp_left fun stops => unread.idle.symm ▸ stops

/-- Meters stay sound. -/
theorem sound_stable (base : Nat) : Port.Stable (Sound base) where
  read {metered} sound := by
    obtain ⟨queue, reads, left, more⟩ := metered.device.read_left
    have counted := sound.counted
    constructor
    · show (Port.read metered.device).2.readCount ≤ base + (metered.reads + 1)
      rw [left]
      show reads ≤ base + (metered.reads + 1)
      omega
    · show (Port.read metered.device).2.idle.Stops ∨ metered.spare = 0
      rw [left]
      exact sound.sufficient
  write bytes metered sound := sound.unread (metered.device.write_unread bytes)
  flush {metered} sound := sound.unread metered.device.flush_unread
  clear {metered} sound := sound.unread metered.device.clear_unread
  close {metered} sound := sound.unread metered.device.close_unread
  pause _ _ sound := sound

/-- A read behind which a line goes on has taken an item, unless an empty queue interrupts. -/
theorem read_continues {metered : Metered} {bytes : List UInt8}
    (judged : Port.verdict (Port.read metered).1 = .continues bytes)
    (more : metered.device.idle.Stops ∨ metered.device.queue ≠ []) :
    ∃ item rest, metered.device.queue = item :: rest ∧
      Port.read metered = (item.found, { metered with
        device := metered.device.left rest (metered.device.readCount + 1)
        reads := metered.reads + 1
        consumed := metered.consumed + 1 }) := by
  have read : Port.read metered = ((Port.read metered.device).1,
      metered.count (Port.read metered.device).2) := rfl
  rw [read] at judged
  cases closed : metered.device.isClosed with
  | true =>
    rw [Device.read_closed closed] at judged
    cases judged
  | false =>
    cases waiting : metered.device.queue with
    | nil =>
      rw [Device.read_nil closed waiting] at judged
      rcases more with stops | present
      · exact absurd judged (stops.verdict bytes)
      · exact absurd waiting present
    | cons item rest =>
      refine ⟨item, rest, rfl, ?_⟩
      have one : metered.device.queue.length - rest.length = 1 := by
        rw [waiting, List.length_cons]
        omega
      rw [read, Device.read_cons closed waiting, count]
      show (item.found, ({ metered with
        device := metered.device.left rest (metered.device.readCount + 1)
        reads := metered.reads + 1
        consumed := metered.consumed + (metered.device.queue.length - rest.length) } : Metered)) = _
      rw [one]

/-- A read may take nothing. -/
theorem read_metered (metered : Metered) :
    (Port.read metered).2.reads + metered.consumed ≤
      metered.reads + (Port.read metered).2.consumed + 1 := by
  show metered.reads + 1 + metered.consumed ≤ metered.reads + (metered.consumed +
    (metered.device.queue.length - (Port.read metered.device).2.queue.length)) + 1
  omega

/-- A line costs one read more than it takes items, unless there is time to spare for an empty queue
that interrupts. -/
theorem collectLine_metered (patience : Nat) (metered : Metered)
    (enough : metered.device.idle.Stops ∨ patience ≤ metered.device.queue.length) :
    (Port.collectLine patience metered).2.reads + metered.consumed ≤
      metered.reads + (Port.collectLine patience metered).2.consumed + 1 := by
  -- The last read may take nothing; each one before it takes the item that it goes on behind.
  induction patience generalizing metered with
  | zero =>
    rw [Port.collectLine_zero]
    cases Port.verdict (Port.read metered).1 <;> exact metered.read_metered
  | succ patience ih =>
    rw [Port.collectLine_succ]
    cases judged : Port.verdict (Port.read metered).1 with
    | ends bytes => exact metered.read_metered
    | fails error => exact metered.read_metered
    | continues bytes =>
      have more : metered.device.idle.Stops ∨ metered.device.queue ≠ [] := by
        refine enough.imp_right fun within empty => ?_
        rw [empty] at within
        exact absurd within (Nat.not_succ_le_zero patience)
      obtain ⟨item, rest, waiting, read⟩ := read_continues judged more
      let next : Metered := { metered with
        device := metered.device.left rest (metered.device.readCount + 1)
        reads := metered.reads + 1
        consumed := metered.consumed + 1 }
      have still : next.device.idle.Stops ∨ patience ≤ next.device.queue.length := by
        refine enough.imp_right fun within => ?_
        rw [waiting] at within
        exact Nat.le_of_succ_le_succ within
      have later : (Port.collectLine patience next).2.reads + (metered.consumed + 1) ≤
          metered.reads + 1 + (Port.collectLine patience next).2.consumed + 1 := ih next still
      rw [read]
      show (Port.collectLine patience next).2.reads + metered.consumed ≤
        metered.reads + (Port.collectLine patience next).2.consumed + 1
      omega

/-- **A line that is read costs one read more than it takes items.** -/
theorem readLine_metered {metered : Metered} (sufficient : metered.Sufficient) :
    (Port.readLine metered).2.reads + metered.consumed ≤
      metered.reads + (Port.readLine metered).2.consumed + 1 := by
  apply collectLine_metered
  refine sufficient.imp_right fun none => ?_
  show (if metered.device.timeout = 0 then 0 else metered.device.queue.length + metered.spare) ≤ _
  rw [none]
  split <;> omega

/-- Whether time to spare is needed does not change. -/
theorem sufficient_stable : Port.Stable Sufficient := by
  have sound {metered : Metered} (sufficient : metered.Sufficient) :
      metered.Sound metered.device.readCount := ⟨Nat.le_add_right _ _, sufficient⟩
  constructor
  case read => exact fun sufficient => ((sound_stable _).read (sound sufficient)).sufficient
  case write =>
    exact fun bytes _ sufficient => ((sound_stable _).write bytes (sound sufficient)).sufficient
  case flush => exact fun sufficient => ((sound_stable _).flush (sound sufficient)).sufficient
  case clear => exact fun sufficient => ((sound_stable _).clear (sound sufficient)).sufficient
  case close => exact fun sufficient => ((sound_stable _).close (sound sufficient)).sufficient
  case pause => exact fun _ _ sufficient => sufficient

/-- A metered port is the device that it measures. -/
def Measures (metered : Metered) (device : Device) : Prop :=
  metered.device = device ∧ metered.Sufficient

/-- Time to spare makes no difference to a line. -/
theorem collectLine_spare {metered : Metered} (sufficient : metered.Sufficient) :
    Port.collectLine (Port.patience metered) metered.device =
      Port.collectLine (Port.patience metered.device) metered.device := by
  have here : Port.patience metered =
      if metered.device.timeout = 0 then 0 else metered.device.queue.length + metered.spare := rfl
  have there : Port.patience metered.device =
      if metered.device.timeout = 0 then 0 else metered.device.queue.length := rfl
  rw [here, there]
  by_cases zero : metered.device.timeout = 0
  · rw [if_pos zero, if_pos zero]
  · rw [if_neg zero, if_neg zero]
    rcases sufficient with stops | none
    · exact Device.collectLine_enough stops (Nat.le_add_right _ _)
    · rw [none, Nat.add_zero]

/-- Neither the meters nor time to spare make a difference to an upload. -/
theorem measures_simulation : Port.Simulation Measures := by
  have read {metered : Metered} {device : Device} (measures : metered.Measures device) :
      Port.Agree Measures (Port.read metered) (Port.read device) := by
    obtain ⟨rfl, sufficient⟩ := measures
    exact ⟨rfl, rfl, sufficient_stable.read sufficient⟩
  have write (bytes : List UInt8) {metered : Metered} {device : Device}
      (measures : metered.Measures device) :
      Port.Agree Measures (Port.write bytes metered) (Port.write bytes device) := by
    obtain ⟨rfl, sufficient⟩ := measures
    exact ⟨rfl, rfl, sufficient_stable.write bytes sufficient⟩
  have flush {metered : Metered} {device : Device} (measures : metered.Measures device) :
      Port.Agree Measures (Port.flush metered) (Port.flush device) := by
    obtain ⟨rfl, sufficient⟩ := measures
    exact ⟨rfl, rfl, sufficient_stable.flush sufficient⟩
  constructor
  case name =>
    rintro metered _ ⟨rfl, -⟩
    rfl
  case pause =>
    rintro span metered _ ⟨rfl, sufficient⟩
    exact ⟨rfl, sufficient⟩
  case deliver => exact fun bytes _ _ measures => Port.deliver_agree write flush bytes measures
  case readLine =>
    intro metered device measures
    obtain ⟨same, after⟩ := Port.collectLine_agree read (Port.patience metered) measures
    obtain ⟨rfl, sufficient⟩ := measures
    rw [collectLine_spare sufficient] at same after
    rw [Port.readLine_eq, Port.readLine_eq]
    exact ⟨congrArg (·.map Reply.decodeLine) same, after⟩
  case clear =>
    rintro metered _ ⟨rfl, sufficient⟩
    exact ⟨rfl, rfl, sufficient_stable.clear sufficient⟩
  case clearEvents =>
    rintro metered _ ⟨rfl, -⟩
    rfl
  case close =>
    rintro metered _ ⟨rfl, sufficient⟩
    exact ⟨rfl, rfl, sufficient_stable.close sufficient⟩
  case closeEvents =>
    rintro metered _ ⟨rfl, -⟩
    rfl

end Metered

end CertConsole
