import CertConsole.Proofs.Utf8Chunks

/-!
# Written characters as boundaries

Decoding starts afresh at every written character. Its first byte breaks whatever sequence is open
before it, because no character begins with a continuation byte, and nothing is open behind its
last byte. So the bytes on either side of a written character are decoded on their own, however ill
formed they are (`decodeLossy_around`).
-/
namespace CertConsole.Utf8

/-- The state of the decoder behind some bytes. -/
def State.through (state : State) (bytes : List UInt8) : State :=
  bytes.foldl (fun reached byte => (reached.step byte.toNat).state) state

/-- From a legal state every state that is reached is legal. -/
theorem through_legal {state : State} (legal : state.Legal) (bytes : List UInt8) :
    (state.through bytes).Legal := by
  induction bytes generalizing state with
  | nil => exact legal
  | cons byte bytes ih => exact ih (step_legal legal byte.toNat)

/-- Decoding goes on from the state that the bytes before have left. -/
theorem decodeFrom_append (state : State) (front back : List UInt8) :
    decodeFrom state (front ++ back) =
      decodeFrom state front ++ decodeFrom (state.through front) back := by
  induction front generalizing state with
  | nil => rfl
  | cons byte front ih =>
    rw [List.cons_append, decodeFrom, decodeFrom, ih, List.append_assoc]
    rfl

/-- A written character is read from every legal state, whatever sequence it breaks. -/
theorem decodeFrom_encodeChar {state : State} (legal : state.Legal) (char : Char)
    (rest : List UInt8) :
    decodeFrom state (String.utf8EncodeChar char ++ rest) = char :: decodeLossy rest := by
  rw [← decodeLossy_encodeChar]
  cases state with
  | start => rfl
  | inside bits after low high =>
    obtain ⟨lead, count, written⟩ := exists_encodeChar char
    have whole : String.utf8EncodeChar char <+: lead :: tail count char.toNat :=
      ⟨[], by rw [List.append_nil, written]⟩
    have apart : ¬IsTail lead := by
      intro isTail
      exact isTail.noChar (tail count char.toNat) char whole
    have broken : ¬(low ≤ lead.toNat ∧ lead.toNat ≤ high) := by
      obtain ⟨lower, -, upper, -⟩ := legal
      unfold IsTail at apart
      omega
    rw [written, List.cons_append]
    apply decodeFrom_refused
    rw [step_break broken]

/-- **What stands on either side of a written character is decoded on its own.** -/
theorem decodeLossy_around (front : List UInt8) (char : Char) (back : List UInt8) :
    decodeLossy (front ++ (String.utf8EncodeChar char ++ back)) =
      decodeLossy front ++ char :: decodeLossy back := by
  have reached : (State.start.through front).Legal := through_legal start_legal front
  rw [decodeLossy, decodeFrom_append, decodeFrom_encodeChar reached]
  rfl

end CertConsole.Utf8
