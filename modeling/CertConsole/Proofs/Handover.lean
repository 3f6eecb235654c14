import CertConsole.Proofs.Recording
import CertConsole.Proofs.WireTrace

/-!
# Handing a buffer over

A delivery is a row of writes and, where they leave nothing, one flush. Each write is offered just
what the ones before it have left, so no byte is handed over twice and none is skipped, however the
port cuts the buffer up and whichever writes it interrupts (`HandedOver.offered`). The first write
that fails for good or takes nothing is the last one, and else the flush decides
(`HandedOver.concludes`). `HandedOver` is that course of a delivery, and the deliveries of every
port take it (`deliver_handedOver`).
-/
namespace CertConsole

/-- The operations of a delivery and what it comes to. -/
inductive HandedOver : List UInt8 → List Operation → Except ChannelError Unit → Prop where
  /-- Nothing is left to be written, and the flush decides. -/
  | flushed (result : Except ChannelError Unit) : HandedOver [] [.flush result] result
  /-- A write takes some bytes from the front, and what it leaves is handed over behind it. -/
  | taken {bytes : List UInt8} {count : Nat} {later : List Operation}
      {result : Except ChannelError Unit} (present : bytes ≠ []) (positive : 0 < count)
      (rest : HandedOver (bytes.drop count) later result) :
      HandedOver bytes (.write bytes (.accepted count) :: later) result
  /-- A write is interrupted and repeated. -/
  | interrupted {bytes : List UInt8} {error : ChannelError} {later : List Operation}
      {result : Except ChannelError Unit} (present : bytes ≠ []) (again : error.kind = .interrupted)
      (rest : HandedOver bytes later result) :
      HandedOver bytes (.write bytes (.failed error) :: later) result
  /-- A write takes nothing. -/
  | refused {bytes : List UInt8} (present : bytes ≠ []) :
      HandedOver bytes [.write bytes (.accepted 0)] (.error .nothingWritten)
  /-- A write fails for good. -/
  | failed {bytes : List UInt8} {error : ChannelError} (present : bytes ≠ [])
      (fatal : error.kind ≠ .interrupted) :
      HandedOver bytes [.write bytes (.failed error)] (.error error)

/-- A write that neither fails for good nor takes nothing of what it is offered. -/
def Operation.Progresses (operation : Operation) : Prop :=
  operation.failure? = none ∧ ∃ bytes result, operation = .write bytes result

/-- The last operation of a delivery decides what it comes to: a write that fails for good, a write
that takes nothing, or the flush. -/
inductive Operation.Decides : Operation → Except ChannelError Unit → Prop where
  | failed (rest : List UInt8) {error : ChannelError} (fatal : error.kind ≠ .interrupted) :
      Decides (.write rest (.failed error)) (.error error)
  | refused {rest : List UInt8} (present : rest ≠ []) :
      Decides (.write rest (.accepted 0)) (.error .nothingWritten)
  | flushed (result : Except ChannelError Unit) : Decides (.flush result) result

/-- The bytes that operations took are those of the first one and then those of the others. -/
theorem acceptedBytes_cons (operation : Operation) (operations : List Operation) :
    acceptedBytes (operation :: operations) = operation.accepted ++ acceptedBytes operations :=
  List.flatMap_cons

/-- Writes that make progress are followed by the operation that decides. Where this is the flush,
they have taken all bytes. -/
def Concludes (bytes : List UInt8) (operations : List Operation)
    (result : Except ChannelError Unit) : Prop :=
  ∃ writes last, operations = writes ++ [last] ∧
    (∀ operation ∈ writes, operation.Progresses) ∧ last.Decides result ∧
    ((∃ outcome, last = .flush outcome) → acceptedBytes writes = bytes)

/-- A write that makes progress may come first. -/
theorem Concludes.cons {first : Operation} {whole rest : List UInt8} {later : List Operation}
    {result : Except ChannelError Unit} (concludes : Concludes rest later result)
    (progresses : first.Progresses) (split : first.accepted ++ rest = whole) :
    Concludes whole (first :: later) result := by
  obtain ⟨writes, last, rfl, others, decides, all⟩ := concludes
  refine ⟨first :: writes, last, rfl, List.forall_mem_cons.mpr ⟨progresses, others⟩, decides, ?_⟩
  intro flush
  rw [acceptedBytes_cons, all flush, split]

namespace HandedOver

variable {bytes : List UInt8} {operations : List Operation} {result : Except ChannelError Unit}

/-- A write is offered just what the writes before it have left, and there is something left. -/
theorem offered (handed : HandedOver bytes operations result) {before after : List Operation}
    {part : List UInt8} {outcome : WriteResult}
    (cut : operations = before ++ .write part outcome :: after) :
    part ≠ [] ∧ acceptedBytes before ++ part = bytes := by
  -- A write at the front is offered the whole buffer.
  have front {other : WriteResult} {later : List Operation} {bytes : List UInt8}
      (present : bytes ≠ []) (cut : .write bytes other :: later = .write part outcome :: after) :
      part ≠ [] ∧ acceptedBytes [] ++ part = bytes := by
    obtain ⟨head, -⟩ := List.cons_eq_cons.mp cut
    cases head
    exact ⟨present, rfl⟩
  induction handed generalizing before with
  | flushed result =>
    cases before with
    | nil => cases cut
    | cons first before => exact absurd (List.cons_eq_cons.mp cut).2 (by simp)
  | @taken bytes count later result present positive rest ih =>
    cases before with
    | nil => exact front present cut
    | cons first before =>
      obtain ⟨rfl, behind⟩ := List.cons_eq_cons.mp cut
      obtain ⟨left, whole⟩ := ih behind
      refine ⟨left, ?_⟩
      rw [acceptedBytes_cons, List.append_assoc, whole]
      exact List.take_append_drop count bytes
  | interrupted present again rest ih =>
    cases before with
    | nil => exact front present cut
    | cons first before =>
      obtain ⟨rfl, behind⟩ := List.cons_eq_cons.mp cut
      exact @ih before behind
  | refused present =>
    cases before with
    | nil => exact front present cut
    | cons first before => exact absurd (List.cons_eq_cons.mp cut).2 (by simp)
  | failed present fatal =>
    cases before with
    | nil => exact front present cut
    | cons first before => exact absurd (List.cons_eq_cons.mp cut).2 (by simp)

/-- The course of a delivery ends with the operation that decides. -/
theorem concludes (handed : HandedOver bytes operations result) :
    Concludes bytes operations result := by
  induction handed with
  | flushed result => exact ⟨[], _, rfl, nofun, .flushed result, fun _ => rfl⟩
  | @taken bytes count later result present positive rest ih =>
    refine ih.cons ⟨?_, _, _, rfl⟩ (List.take_append_drop count bytes)
    obtain ⟨byte, more, rfl⟩ := List.exists_cons_of_ne_nil present
    obtain ⟨fewer, rfl⟩ := Nat.exists_eq_add_one.mpr positive
    rfl
  | interrupted present again rest ih => exact ih.cons ⟨if_pos again, _, _, rfl⟩ rfl
  | refused present => exact ⟨[], _, rfl, nofun, .refused present, nofun⟩
  | failed present fatal => exact ⟨[], _, rfl, nofun, .failed _ fatal, nofun⟩

/-- Where a write that took nothing is the last operation, a part of the buffer from its front was
taken and not all of it, and no flush is among the operations. -/
theorem unflushed (handed : HandedOver bytes operations result) {writes : List Operation}
    {rest : List UInt8} {outcome : WriteResult}
    (split : operations = writes ++ [.write rest outcome])
    (progress : ∀ operation ∈ writes, operation.Progresses)
    (nothing : (Operation.write rest outcome).accepted = []) :
    acceptedBytes operations <+: bytes ∧ acceptedBytes operations ≠ bytes ∧
      ∀ other, .flush other ∉ operations := by
  obtain ⟨present, whole⟩ := handed.offered split
  have taken : acceptedBytes operations = acceptedBytes writes := by
    rw [split, acceptedBytes_append, acceptedBytes_cons, nothing]
    exact List.append_nil _
  rw [taken]
  refine ⟨⟨rest, whole⟩, ?_, ?_⟩
  · intro complete
    rw [complete] at whole
    exact present (List.append_right_eq_self.mp whole)
  · intro other inside
    rw [split] at inside
    rcases List.mem_append.mp inside with early | late
    · obtain ⟨-, part, outcome, same⟩ := progress _ early
      cases same
    · cases List.mem_singleton.mp late

end HandedOver

namespace Port

variable {σ : Type} [Port σ]

/-- Where nothing is left to be written, a delivery is a flush. -/
theorem deliver_nil (port : σ) : deliver [] port = flush port := by
  rw [deliver_eq, writeAll_nil]

/-- Where something is left, a delivery offers it to the port, and what the port takes decides how
it goes on. -/
theorem deliver_cons (byte : UInt8) (rest : List UInt8) (port : σ) :
    deliver (byte :: rest) port =
      match write (byte :: rest) port with
      | (.accepted 0, next) => (.error .nothingWritten, next)
      | (.accepted (count + 1), next) => deliver (rest.drop count) next
      | (.failed error, next) =>
        if error.kind = .interrupted then deliver (byte :: rest) next
        else (.error error, next) := by
  rw [deliver_eq, writeAll_cons]
  rcases write (byte :: rest) port with ⟨(_ | count) | error, next⟩
  · rfl
  · rfl
  · by_cases again : error.kind = .interrupted
    · simp only [again, ↓reduceIte]
      rfl
    · simp only [again, ↓reduceIte]

end Port

namespace Recorded

variable {σ : Type} [Port σ]

/-- A delivery enters what is done to hand its buffer over. -/
theorem deliver_handedOver (bytes : List UInt8) (record : Recorded σ) :
    ∃ operations,
      (Port.deliver bytes record).2.operations = record.operations ++ operations ∧
        HandedOver bytes operations (Port.deliver bytes record).1 := by
  -- One case for each outcome of a write, which is entered in front of what follows it.
  induction bytes, record using Port.writeAll.induct with
  | case1 record =>
    rw [Port.deliver_nil]
    exact ⟨_, rfl, .flushed _⟩
  | case2 record byte rest next result =>
    rw [Port.deliver_cons, result]
    exact ⟨_, write_entered result, .refused (List.cons_ne_nil byte rest)⟩
  | case3 record byte rest count next result _ ih =>
    obtain ⟨later, entered, handed⟩ := ih
    have present : byte :: rest ≠ [] := List.cons_ne_nil byte rest
    rw [Port.deliver_cons, result]
    refine ⟨_, ?_, .taken present (Nat.succ_pos count) handed⟩
    simp only [entered, write_entered result, List.append_assoc, List.singleton_append]
  | case4 record byte rest error next result again _ ih =>
    obtain ⟨later, entered, handed⟩ := ih
    rw [Port.deliver_cons, result]
    simp only [again, ↓reduceIte]
    refine ⟨_, ?_, .interrupted (List.cons_ne_nil byte rest) again handed⟩
    simp only [entered, write_entered result, List.append_assoc, List.singleton_append]
  | case5 record byte rest error next result fatal =>
    rw [Port.deliver_cons, result]
    simp only [fatal, ↓reduceIte]
    exact ⟨_, write_entered result, .failed (List.cons_ne_nil byte rest) fatal⟩

end Recorded

namespace Port

variable {σ : Type} [Port σ]

/-- The operations that a delivery makes on its port. -/
def deliveryOperations (bytes : List UInt8) (port : σ) : List Operation :=
  (deliver bytes ({ port } : Recorded σ)).2.operations

/-- The operations of a delivery hand its buffer over, and come to what it comes to. -/
theorem deliveryOperations_handedOver (bytes : List UInt8) (port : σ) :
    HandedOver bytes (deliveryOperations bytes port) (deliver bytes port).1 := by
  obtain ⟨operations, entered, handed⟩ :=
    Recorded.deliver_handedOver bytes ({ port } : Recorded σ)
  have same : (deliver bytes ({ port } : Recorded σ)).1 = (deliver bytes port).1 :=
    (Recorded.mirrors_simulation.deliver bytes rfl).1
  have all : deliveryOperations bytes port = operations := entered
  rw [same] at handed
  rwa [all]

/-- The far end of a device has received the bytes that the device took from a delivery. -/
theorem deliver_heard (bytes : List UInt8) (device : Device) :
    (deliver bytes device).2.responder =
      (device.responder.receive (acceptedBytes (deliveryOperations bytes device))).2 := by
  have stable := Device.hears_stable device.responder
  let record : Recorded Device := { port := device }
  have heard : Device.Hears device.responder (deliver bytes record).2 :=
    deliver_keeps stable.write stable.flush bytes rfl
  have mirrored : Port.Agree Recorded.Mirrors (deliver bytes record) (deliver bytes device) :=
    Recorded.mirrors_simulation.deliver bytes rfl
  rw [← mirrored.2]
  exact heard

/-- **A delivery hands over exactly its buffer or a part from its front.** Whatever a port does with
the writes and the flush of a delivery, each write is offered just what the ones before it left. A
delivery that succeeds is a row of writes that took the buffer, and then one flush. In one that
fails the port has taken a part from the front, a flush is attempted exactly if this part is the
whole, and the error is that of the last operation: of a write that failed for good or took nothing,
the first one of these, or of the flush, also where this was interrupted. The far end of a device
has received just what was taken. -/
theorem delivers_exactly (bytes : List UInt8) :
    (∀ {σ : Type} [Port σ] (port : σ),
      let operations := deliveryOperations bytes port
      let result := (deliver bytes port).1
      (∀ before part outcome after, operations = before ++ .write part outcome :: after →
        part ≠ [] ∧ acceptedBytes before ++ part = bytes) ∧
      (result = .ok () → acceptedBytes operations = bytes ∧
        ∃ writes, operations = writes ++ [.flush (.ok ())] ∧
          ∀ operation ∈ writes, operation.Progresses) ∧
      ∀ error, result = .error error →
        acceptedBytes operations <+: bytes ∧
        ((∃ outcome, .flush outcome ∈ operations) ↔ acceptedBytes operations = bytes) ∧
        ∃ writes last, operations = writes ++ [last] ∧
          (∀ operation ∈ writes, operation.Progresses) ∧
          ((∃ rest, last = .write rest (.failed error) ∧ error.kind ≠ .interrupted) ∨
            (∃ rest, last = .write rest (.accepted 0) ∧ rest ≠ [] ∧
              error.text = "failed to write whole buffer") ∨
            last = .flush (.error error))) ∧
    ∀ device : Device, (deliver bytes device).2.responder =
      (device.responder.receive (acceptedBytes (deliveryOperations bytes device))).2 := by
  refine ⟨?_, deliver_heard bytes⟩
  intro σ _ port operations result
  have handed : HandedOver bytes operations result := deliveryOperations_handedOver bytes port
  obtain ⟨writes, last, split, progress, decides, all⟩ := handed.concludes
  have complete (flush : ∃ outcome, last = .flush outcome) : acceptedBytes operations = bytes := by
    obtain ⟨outcome, rfl⟩ := flush
    rw [split, acceptedBytes_append, all ⟨outcome, rfl⟩]
    exact List.append_nil bytes
  refine ⟨fun before part outcome after cut => handed.offered cut, ?_, ?_⟩
  · intro done
    rw [done] at decides
    cases decides with
    | flushed => exact ⟨complete ⟨_, rfl⟩, writes, split, progress⟩
  · intro error stopped
    rw [stopped] at decides
    cases decides with
    | failed rest fatal =>
      obtain ⟨part, less, none⟩ := handed.unflushed split progress rfl
      refine ⟨part, iff_of_false (fun ⟨other, inside⟩ => none other inside) less, writes, _, split,
        progress, .inl ⟨rest, rfl, fatal⟩⟩
    | @refused rest present =>
      obtain ⟨part, less, none⟩ := handed.unflushed split progress rfl
      refine ⟨part, iff_of_false (fun ⟨other, inside⟩ => none other inside) less, writes, _, split,
        progress, .inr (.inl ⟨rest, rfl, present, rfl⟩)⟩
    | flushed =>
      have whole := complete ⟨_, rfl⟩
      have attempted : .flush (.error error) ∈ operations := by
        rw [split]
        exact List.mem_append_right writes List.mem_cons_self
      refine ⟨⟨[], by rw [whole, List.append_nil]⟩, iff_of_true ⟨_, attempted⟩ whole, writes, _,
        split, progress, .inr (.inr rfl)⟩

/-- A write that takes one byte, an interrupted one and one that fails: one byte was taken, the
rest was offered twice, and no flush is attempted. -/
theorem delivers_exactly_cut :
    let again : ChannelError := ⟨.interrupted, "again"⟩
    let error : ChannelError := ⟨.timedOut, "slow"⟩
    let device : Device := { writes := [.atMost 1, .fail again, .fail error] }
    let operations := deliveryOperations [0x61, 0x62] device
    (deliver [0x61, 0x62] device).1 = .error error ∧ acceptedBytes operations <+: [0x61, 0x62] ∧
      acceptedBytes operations = [0x61] ∧ ¬∃ outcome, .flush outcome ∈ operations := by
  intro again error device operations
  have failed : (deliver [0x61, 0x62] device).1 = .error error := by decide +kernel
  have one : acceptedBytes operations = [0x61] := by decide +kernel
  obtain ⟨-, -, stops⟩ := (delivers_exactly [0x61, 0x62]).1 device
  obtain ⟨part, flushes, -⟩ := stops error failed
  refine ⟨failed, part, one, ?_⟩
  intro attempted
  have all := flushes.mp attempted
  rw [one] at all
  cases all

end Port

end CertConsole
