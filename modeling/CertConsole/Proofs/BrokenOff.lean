import CertConsole.Proofs.Orderly

/-!
# Broken operations

Operations that are to hand over some bytes break off at the first one that fails. What that one is
tells how far the bytes came: writes are made while bytes are left, and a flush or a read only when
all of them are taken (`Broken`). So a command that is sent, and whose reply is read, was received
exactly if the operation that failed waits for the device.
-/
namespace CertConsole

/-- The operation waits, for what was taken to be sent or for a byte of an answer. -/
def Operation.awaits : Operation → Bool
  | .flush _ | .read _ => true
  | _ => false

/-- Operations of which the last one fails, and waits just where all bytes are handed over. -/
structure Broken (bytes : List UInt8) (operations : List Operation) (last : Operation)
    (error : PortError) : Prop where
  orderly : Orderly bytes operations (some error)
  ends : [last] <:+ operations
  failed : last.failure? = some error
  whole : acceptedBytes operations = bytes ↔ last.awaits = true

/-- Operations without a failure may come first. -/
theorem Broken.after {first second : List UInt8} {early late : List Operation} {last : Operation}
    {error : PortError} (head : Orderly first early none) (broken : Broken second late last error) :
    Broken (first ++ second) (early ++ late) last error where
  orderly := head.append broken.orderly
  ends := List.suffix_append_of_suffix broken.ends
  failed := broken.failed
  whole := by
    rw [acceptedBytes_append, head.acceptsAll rfl, List.append_right_inj]
    exact broken.whole

namespace Recorded

variable {σ : Type}

/-- What was entered in a record between two states of it is broken off. -/
def Breaks (bytes : List UInt8) (error : PortError) (before after : Recorded σ) : Prop :=
  ∃ operations last, after.operations = before.operations ++ operations ∧
    Broken bytes operations last error

namespace Breaks

/-- A record without a failure may come first. -/
theorem after {first second : List UInt8} {error : PortError} {before between last : Recorded σ}
    (head : Sends first none before between) (breaks : Breaks second error between last) :
    Breaks (first ++ second) error before last := by
  obtain ⟨early, entered, orderly⟩ := head
  obtain ⟨late, final, entered', broken⟩ := breaks
  refine ⟨early ++ late, final, ?_, broken.after orderly⟩
  rw [entered', entered, List.append_assoc]

/-- One operation that fails is the last one. It hands over nothing, so it waits where nothing was
left to be handed over. -/
theorem one {bytes : List UInt8} {before after : Recorded σ} {operation : Operation}
    {error : PortError} (entered : after.operations = before.operations ++ [operation])
    (opened : operation.closes = false) (failed : operation.failure? = some error)
    (empty : operation.accepted = []) (waits : bytes = [] ↔ operation.awaits = true) :
    Breaks bytes error before after := by
  have nothing : acceptedBytes [operation] = [] := (List.append_nil _).trans empty
  have alone : Stops ([] ++ [operation]) (some error) := .last (by simp) failed
  have orderly : Orderly bytes [operation] (some error) := by
    refine ⟨alone, operation.stays_open opened, ?_, nofun⟩
    rw [nothing]
    exact List.nil_prefix
  refine ⟨[operation], operation, entered, orderly, List.suffix_refl _, failed, ?_⟩
  rw [nothing, eq_comm]
  exact waits

end Breaks

variable [Port σ]

/-- A buffer that is not written was not taken as a whole, and a write was the last operation. -/
theorem writeAll_breaks {bytes : List UInt8} {record : Recorded σ} {error : ChannelError}
    (failed : (Port.writeAll bytes record).1 = .error error) :
    Breaks bytes (.channel error) record (Port.writeAll bytes record).2 := by
  -- One case for each outcome of a write, as in `writeAll_sends`.
  induction bytes, record using Port.writeAll.induct with
  | case1 record =>
    rw [Port.writeAll_nil] at failed
    cases failed
  | case2 record byte rest next result =>
    have entered := write_entered result
    rw [Port.writeAll_cons, result] at failed ⊢
    cases failed
    exact .one entered rfl rfl rfl (iff_of_false (List.cons_ne_nil _ _) Bool.false_ne_true)
  | case3 record byte rest count next result _ ih =>
    have step := Sends.one (write_entered result) rfl rfl
    have whole : (byte :: rest).take (count + 1) ++ rest.drop count = byte :: rest := by
      rw [List.take_succ_cons, List.cons_append, List.take_append_drop]
    rw [Port.writeAll_cons, result] at failed ⊢
    rw [← whole]
    exact (ih failed).after step
  | case4 record byte rest error' next result interrupted _ ih =>
    have step := Sends.one (write_entered result) rfl (if_pos interrupted)
    rw [Port.writeAll_cons, result] at failed ⊢
    simp only [interrupted, ↓reduceIte] at failed ⊢
    exact (ih failed).after step
  | case5 record byte rest error' next result fatal =>
    have entered := write_entered result
    rw [Port.writeAll_cons, result] at failed ⊢
    simp only [fatal, ↓reduceIte] at failed ⊢
    cases failed
    exact .one entered rfl (if_neg fatal) rfl
      (iff_of_false (List.cons_ne_nil _ _) Bool.false_ne_true)

/-- A delivery fails in a write, before all bytes are taken, or in the flush behind them. -/
theorem deliver_breaks {bytes : List UInt8} {record : Recorded σ} {error : ChannelError}
    (failed : (Port.deliver bytes record).1 = .error error) :
    Breaks bytes (.channel error) record (Port.deliver bytes record).2 := by
  have sends := writeAll_sends bytes record
  rw [Port.deliver_eq] at failed ⊢
  rcases outcome : Port.writeAll bytes record with ⟨error' | ⟨⟩, next⟩
  · have breaks := writeAll_breaks (congrArg Prod.fst outcome)
    rw [outcome] at failed breaks
    cases failed
    exact breaks
  · rw [outcome] at failed sends
    have flushed : (Port.flush next).1 = .error error := failed
    have entered : (Port.flush next).2.operations =
        next.operations ++ [.flush (Port.flush next).1] := rfl
    have waits : ([] : List UInt8) = [] ↔ true = true := iff_of_true rfl rfl
    have last : Breaks [] (.channel error) next (Port.flush next).2 :=
      .one entered rfl (by rw [flushed]; rfl) rfl waits
    have breaks := last.after sends
    rw [List.append_nil] at breaks
    exact breaks

/-- A line is lost in a read. -/
theorem collectLine_breaks {patience : Nat} {record : Recorded σ} {error : ChannelError}
    (failed : (Port.collectLine patience record).1 = .error error) :
    Breaks [] (.channel error) record (Port.collectLine patience record).2 := by
  have entered (record : Recorded σ) : (Port.read record).2.operations =
      record.operations ++ [.read (Port.read record).1] := rfl
  have waits : ([] : List UInt8) = [] ↔ true = true := iff_of_true rfl rfl
  have failure (record : Recorded σ) := read_failure (Port.read record).1
  induction patience generalizing record with
  | zero =>
    have verdictFailure := failure record
    rw [Port.collectLine_zero] at failed ⊢
    cases judged : Port.verdict (Port.read record).1 with
    | ends bytes => rw [judged] at failed; cases failed
    | continues bytes => rw [judged] at failed; cases failed
    | fails lost =>
      rw [judged] at failed verdictFailure
      cases failed
      exact .one (entered record) rfl verdictFailure rfl waits
  | succ patience ih =>
    have verdictFailure := failure record
    rw [Port.collectLine_succ] at failed ⊢
    cases judged : Port.verdict (Port.read record).1 with
    | ends bytes => rw [judged] at failed; cases failed
    | fails lost =>
      rw [judged] at failed verdictFailure
      cases failed
      exact .one (entered record) rfl verdictFailure rfl waits
    | continues bytes =>
      rw [judged] at failed verdictFailure
      have step := Sends.one (entered record) rfl verdictFailure
      cases collected : (Port.collectLine patience (Port.read record).2).1 with
      | ok line =>
        simp only [collected] at failed
        cases failed
      | error lost =>
        simp only [collected] at failed
        cases failed
        exact (ih collected).after step

theorem readLine_breaks {record : Recorded σ} {error : ChannelError}
    (failed : (Port.readLine record).1 = .error error) :
    Breaks [] (.channel error) record (Port.readLine record).2 := by
  rw [Port.readLine_eq] at failed ⊢
  cases collected : (Port.collectLine (Port.patience record) record).1 with
  | ok bytes =>
    simp only [collected] at failed
    cases failed
  | error lost =>
    simp only [collected] at failed
    cases failed
    exact collectLine_breaks collected

end Recorded

namespace Procedure

variable {σ α β : Type}

/-- Where a procedure fails, its operations are broken off. -/
def Breaks (bytes : List UInt8) (procedure : Procedure (Recorded σ) α) : Prop :=
  ∀ session error, (procedure.run session).1 = .error error →
    Recorded.Breaks bytes error session.port (procedure.run session).2.port

/-- Behind a step that hands over all bytes others may follow that hand over none. -/
theorem Breaks.bind {bytes : List UInt8} {procedure : Procedure (Recorded σ) α}
    {next : α → Procedure (Recorded σ) β} (head : Breaks bytes procedure)
    (sends : Sends bytes procedure) (tail : ∀ value, Breaks [] (next value)) :
    Breaks bytes (procedure >>= next) := by
  intro session error failed
  have broken := head session
  have sent := sends session
  rw [run_bind] at failed ⊢
  rcases outcome : procedure.run session with ⟨lost | value, after⟩
  · rw [outcome] at failed broken
    cases failed
    exact broken error rfl
  · rw [outcome] at failed sent
    have last := (tail value after error failed).after sent
    rw [List.append_nil] at last
    exact last

variable [Port σ]

theorem send_breaks (command : Command) :
    Breaks command.encode (send command : Procedure (Recorded σ) Unit) := by
  intro session error failed
  rw [run_send] at failed ⊢
  cases outcome : (Port.deliver command.encode session.port).1 with
  | error lost =>
    simp only [outcome] at failed
    cases failed
    exact Recorded.deliver_breaks outcome
  | ok _ =>
    simp only [outcome] at failed
    cases failed

theorem readLine_breaks : Breaks [] (readLine : Procedure (Recorded σ) String) := by
  intro session error failed
  cases outcome : (Port.readLine session.port).1 with
  | error lost =>
    rw [run_readLine_error outcome] at failed ⊢
    cases failed
    exact Recorded.readLine_breaks outcome
  | ok line =>
    rw [run_readLine_ok outcome] at failed
    cases failed

end Procedure

end CertConsole
