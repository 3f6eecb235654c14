/-!
# UTF-8

Text travels over a console as UTF-8. `encode` writes characters as bytes. Two readers share one
decoder that takes a byte at a time and remembers the unfinished sequence before it: `decode?`
refuses a byte string that is not well formed, and `decodeLossy` drops what is ill formed and keeps
every character around it.

An ill-formed chunk is as long as the bytes of it could still have begun a well-formed sequence, so
the byte that breaks a sequence is not part of the chunk: it is read afresh.
-/
namespace CertConsole.Utf8

/-- The bytes of a text. -/
def encode (text : List Char) : List UInt8 := text.flatMap String.utf8EncodeChar

/-- What the decoder remembers between two bytes. -/
inductive State where
  /-- No sequence is open. -/
  | start
  /-- A sequence is open: the bits read, how many bytes follow the next one, and the least and
  the greatest value that the next byte may have. -/
  | inside (bits after low high : Nat)
  deriving DecidableEq, Repr

/-- What one byte gives: the state after it, a character when it completes one, and whether it
broke a sequence or opens none. -/
structure Step where
  /-- The state after the byte. -/
  state : State
  /-- The character that the byte completes. -/
  char : Option Char
  /-- The byte ended an ill-formed chunk or is one. -/
  illFormed : Bool
  deriving DecidableEq, Repr

/-- The first byte of a sequence. The bounds on the second byte leave out overlong forms,
surrogates and values above the last code point. -/
def first (byte : Nat) : Step :=
  if byte < 0x80 then ⟨.start, some (Char.ofNat byte), false⟩
  else if byte < 0xC2 then ⟨.start, none, true⟩
  else if byte < 0xE0 then ⟨.inside (byte - 0xC0) 0 0x80 0xBF, none, false⟩
  else if byte = 0xE0 then ⟨.inside 0 1 0xA0 0xBF, none, false⟩
  else if byte = 0xED then ⟨.inside 0xD 1 0x80 0x9F, none, false⟩
  else if byte < 0xF0 then ⟨.inside (byte - 0xE0) 1 0x80 0xBF, none, false⟩
  else if byte = 0xF0 then ⟨.inside 0 2 0x90 0xBF, none, false⟩
  else if byte < 0xF4 then ⟨.inside (byte - 0xF0) 2 0x80 0xBF, none, false⟩
  else if byte = 0xF4 then ⟨.inside 4 2 0x80 0x8F, none, false⟩
  else ⟨.start, none, true⟩

/-- One byte. A byte that cannot go on with the open sequence breaks it and is read as a first
byte. -/
def State.step (state : State) (byte : Nat) : Step :=
  match state with
  | .start => first byte
  | .inside bits after low high =>
    if low ≤ byte ∧ byte ≤ high then
      match after with
      | 0 => ⟨.start, some (Char.ofNat (bits * 64 + (byte - 0x80))), false⟩
      | after + 1 => ⟨.inside (bits * 64 + (byte - 0x80)) after 0x80 0xBF, none, false⟩
    else { first byte with illFormed := true }

/-- The characters that the bytes complete, from a state. -/
def decodeFrom : State → List UInt8 → List Char
  | _, [] => []
  | state, byte :: bytes =>
    let step := state.step byte.toNat
    step.char.toList ++ decodeFrom step.state bytes

/-- The characters of a byte string; ill-formed chunks are dropped. -/
def decodeLossy (bytes : List UInt8) : List Char := decodeFrom .start bytes

/-- The characters of a well-formed byte string, from a state. -/
def decodeFrom? : State → List UInt8 → Option (List Char)
  | .start, [] => some []
  | .inside .., [] => none
  | state, byte :: bytes =>
    let step := state.step byte.toNat
    if step.illFormed then none
    else (decodeFrom? step.state bytes).map (step.char.toList ++ ·)

/-- The text of a byte string, if all of it is well formed. -/
def decode? (bytes : List UInt8) : Option (List Char) := decodeFrom? .start bytes

end CertConsole.Utf8
