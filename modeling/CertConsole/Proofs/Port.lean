import CertConsole.Port

/-!
# Equations of the compound operations

`writeAll` and `collectLine` by what the first write or read comes to. The steps of their recursion
are stated with the bounds of the interface left out, which only its termination needs. `lineAt` and
`afterLines` are what line reads that follow each other come to.
-/
namespace CertConsole.Port

variable {σ : Type} [Port σ]

/-- An empty buffer is written at once. -/
@[simp] theorem writeAll_nil (port : σ) : writeAll [] port = (.ok (), port) := by
  rw [writeAll]

/-- A buffer that is not empty is offered to the port, and the rest depends on what it takes. -/
theorem writeAll_cons (byte : UInt8) (rest : List UInt8) (port : σ) :
    writeAll (byte :: rest) port =
      match write (byte :: rest) port with
      | (.accepted 0, next) => (.error .nothingWritten, next)
      | (.accepted (count + 1), next) => writeAll (rest.drop count) next
      | (.failed error, next) =>
        if error.kind = .interrupted then writeAll (byte :: rest) next
        else (.error error, next) := by
  rw [writeAll]
  split <;> rename_i result <;> simp only [result, dite_eq_ite]

/-- A buffer that was written is flushed; one that was not is not. -/
theorem deliver_eq (bytes : List UInt8) (port : σ) :
    deliver bytes port =
      match writeAll bytes port with
      | (.ok (), next) => flush next
      | (.error error, next) => (.error error, next) := rfl

/-- What a read means for the line that is being collected. -/
inductive Verdict where
  /-- The line ends with these bytes. -/
  | ends (bytes : List UInt8)
  /-- The line has these bytes and goes on while there is patience. -/
  | continues (bytes : List UInt8)
  /-- The line is lost. -/
  | fails (error : ChannelError)

/-- The verdict on a read. -/
def verdict : ReadResult → Verdict
  | .byte byte => if byte = lineFeed then .ends [byte] else .continues [byte]
  | .nothing => .ends []
  | .failed error =>
    if error.kind = .interrupted then .continues []
    else if error.isSilence then .ends []
    else .fails error

/-- Without patience a line is over after one read. -/
theorem collectLine_zero (port : σ) :
    collectLine 0 port =
      match verdict (read port).1 with
      | .ends bytes | .continues bytes => (.ok bytes, (read port).2)
      | .fails error => (.error error, (read port).2) := by
  rw [collectLine]
  rcases read port with ⟨byte | _ | error, next⟩
  · by_cases last : byte = lineFeed <;> simp [verdict, last]
  · rfl
  · by_cases interrupted : error.kind = .interrupted
    · simp [verdict, interrupted]
    · by_cases silent : error.isSilence = true <;> simp [verdict, interrupted, silent]

/-- With patience left a line that goes on is collected from what follows, too. -/
theorem collectLine_succ (patience : Nat) (port : σ) :
    collectLine (patience + 1) port =
      match verdict (read port).1 with
      | .ends bytes => (.ok bytes, (read port).2)
      | .continues bytes =>
        ((collectLine patience (read port).2).1.map (bytes ++ ·),
          (collectLine patience (read port).2).2)
      | .fails error => (.error error, (read port).2) := by
  rw [collectLine]
  rcases read port with ⟨byte | _ | error, next⟩
  · by_cases last : byte = lineFeed <;> simp [verdict, last]
  · rfl
  · by_cases interrupted : error.kind = .interrupted
    · rcases collected : collectLine patience next with ⟨failure | bytes, port⟩ <;>
        simp [verdict, interrupted, collected, Except.map]
    · by_cases silent : error.isSilence = true <;> simp [verdict, interrupted, silent]

/-- A line read decodes the bytes that were collected. -/
theorem readLine_eq (port : σ) :
    readLine port =
      ((collectLine (patience port) port).1.map Reply.decodeLine,
        (collectLine (patience port) port).2) := rfl

/-- A port behind that many line reads. -/
def afterLines : Nat → σ → σ
  | 0, port => port
  | count + 1, port => afterLines count (readLine port).2

/-- What the line read behind that many others comes to. -/
def lineAt (index : Nat) (port : σ) : Except ChannelError String :=
  (readLine (afterLines index port)).1

@[simp] theorem afterLines_zero (port : σ) : afterLines 0 port = port := rfl

theorem afterLines_succ (count : Nat) (port : σ) :
    afterLines (count + 1) port = afterLines count (readLine port).2 := rfl

/-- The last of some line reads is made where the others have left the port. -/
theorem afterLines_last (count : Nat) (port : σ) :
    afterLines (count + 1) port = (readLine (afterLines count port)).2 := by
  induction count generalizing port with
  | zero => rfl
  | succ count ih =>
    rw [afterLines_succ, ih]
    rfl

@[simp] theorem lineAt_zero (port : σ) : lineAt 0 port = (readLine port).1 := rfl

theorem lineAt_succ (index : Nat) (port : σ) :
    lineAt (index + 1) port = lineAt index (readLine port).2 := rfl

end CertConsole.Port
