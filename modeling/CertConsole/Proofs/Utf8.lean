import CertConsole.Text.Utf8

/-!
# Bytes below 0x80

The characters below U+0080 are their own bytes, and no other character has such a byte. So what
ends a command or a line on the wire is never part of another character: neither where text is
written (`mem_of_mem_encode`) nor where bytes are read, however ill formed
(`mem_of_mem_decodeLossy`). The second half rests on `State.Legal`, what holds of every state that
the decoder reaches.
-/
namespace CertConsole.Utf8

/-- A byte below 0x80 stands only for the character with its number. -/
theorem eq_of_mem_encodeChar {char : Char} {byte : UInt8}
    (inside : byte ∈ String.utf8EncodeChar char) (ascii : byte.toNat < 0x80) :
    Char.ofNat byte.toNat = char := by
  unfold String.utf8EncodeChar at inside
  simp only at inside
  split at inside
  · rename_i small
    have value : byte.toNat = char.toNat := by
      rw [List.mem_singleton.mp inside]
      change char.val.toNat % 256 = char.val.toNat
      omega
    rw [value, Char.ofNat_toNat]
  · split at inside
    · simp only [List.mem_cons, List.not_mem_nil, or_false] at inside
      rcases inside with rfl | rfl <;> simp only [UInt8.toNat_ofNat'] at ascii <;> omega
    · split at inside
      · simp only [List.mem_cons, List.not_mem_nil, or_false] at inside
        rcases inside with rfl | rfl | rfl <;> simp only [UInt8.toNat_ofNat'] at ascii <;> omega
      · simp only [List.mem_cons, List.not_mem_nil, or_false] at inside
        rcases inside with rfl | rfl | rfl | rfl <;> simp only [UInt8.toNat_ofNat'] at ascii <;>
          omega

/-- A byte below 0x80 in a written text is a character of it. -/
theorem mem_of_mem_encode {text : List Char} {byte : UInt8} (inside : byte ∈ encode text)
    (ascii : byte.toNat < 0x80) : Char.ofNat byte.toNat ∈ text := by
  obtain ⟨char, member, written⟩ := List.mem_flatMap.mp inside
  rw [eq_of_mem_encodeChar written ascii]
  exact member

/-- A text is known by its bytes. -/
theorem encode_injective {left right : List Char} (same : encode left = encode right) :
    left = right := by
  have texts : (String.ofList left).toByteArray = (String.ofList right).toByteArray :=
    congrArg List.toByteArray same
  exact String.ofList_injective (String.toByteArray_inj.mp texts)

/-- Texts on end are written on end. -/
theorem encode_append (left right : List Char) :
    encode (left ++ right) = encode left ++ encode right :=
  List.flatMap_append

section Steps

variable {bits after low high byte : Nat}

/-- A byte within the bounds of an open sequence completes it if it is the last one. -/
theorem step_last (continued : low ≤ byte ∧ byte ≤ high) :
    (State.inside bits 0 low high).step byte =
      ⟨.start, some (Char.ofNat (bits * 64 + (byte - 0x80))), false⟩ :=
  if_pos continued

/-- A byte within the bounds of an open sequence adds its bits to it. -/
theorem step_inner (continued : low ≤ byte ∧ byte ≤ high) :
    (State.inside bits (after + 1) low high).step byte =
      ⟨.inside (bits * 64 + (byte - 0x80)) after 0x80 0xBF, none, false⟩ :=
  if_pos continued

/-- Any other byte breaks an open sequence and is read afresh. -/
theorem step_break (broken : ¬(low ≤ byte ∧ byte ≤ high)) :
    (State.inside bits after low high).step byte = { first byte with illFormed := true } :=
  if_neg broken

end Steps

/-- How many numbers a continuation byte with this many behind it tells apart. -/
def State.weight : Nat → Nat
  | 0 => 1
  | after + 1 => 64 * State.weight after

/-- The least number of a character that completes the open sequence. -/
def State.least (bits after low : Nat) : Nat := (bits * 64 + (low - 0x80)) * weight after

/-- The first number that is too large for a character that completes the open sequence. -/
def State.bound (bits after high : Nat) : Nat := (bits * 64 + (high - 0x80) + 1) * weight after

/-- What holds of a state between two bytes: the next byte is a continuation byte, and whatever
completes the sequence makes a character that needs more than one byte. -/
def State.Legal : State → Prop
  | .start => True
  | .inside bits after low high =>
    0x80 ≤ low ∧ low ≤ high ∧ high ≤ 0xBF ∧ 0x80 ≤ State.least bits after low ∧
      (State.bound bits after high ≤ 0xD800 ∨
        0xE000 ≤ State.least bits after low ∧ State.bound bits after high ≤ 0x110000)

/-- Decoding starts in a legal state. -/
theorem start_legal : State.start.Legal := trivial

/-- A first byte leads to a legal state. -/
theorem first_legal (byte : Nat) : (first byte).state.Legal := by
  unfold first
  repeat' split
  all_goals simp only [State.Legal, State.least, State.bound, State.weight]
  all_goals omega

/-- The state after a byte of a legal state is legal. -/
theorem step_legal {state : State} (legal : state.Legal) (byte : Nat) :
    (state.step byte).state.Legal := by
  cases state with
  | start => exact first_legal byte
  | inside bits after low high =>
    obtain ⟨tail, ordered, within, large, scalar⟩ := legal
    by_cases continued : low ≤ byte ∧ byte ≤ high
    · cases after with
      | zero =>
        rw [step_last continued]
        exact start_legal
      | succ after =>
        rw [step_inner continued]
        have lower : State.least bits (after + 1) low ≤
            State.least (bits * 64 + (byte - 0x80)) after 0x80 := by
          unfold State.least
          rw [State.weight, ← Nat.mul_assoc]
          exact Nat.mul_le_mul_right _ (by omega)
        have upper : State.bound (bits * 64 + (byte - 0x80)) after 0xBF ≤
            State.bound bits (after + 1) high := by
          unfold State.bound
          rw [State.weight, ← Nat.mul_assoc]
          exact Nat.mul_le_mul_right _ (by omega)
        refine ⟨Nat.le_refl _, by decide, Nat.le_refl _, by omega, ?_⟩
        rcases scalar with low | ⟨high, top⟩
        · exact .inl (by omega)
        · exact .inr ⟨by omega, by omega⟩
    · rw [step_break continued]
      exact first_legal byte

/-- The number of a character is the number it was made of, if it is one of a character. -/
theorem toNat_ofNat {value : Nat}
    (scalar : value < 0xD800 ∨ 0xE000 ≤ value ∧ value < 0x110000) :
    (Char.ofNat value).toNat = value := by
  have valid : value.isValidChar := by
    rcases scalar with low | ⟨high, top⟩
    · exact .inl low
    · exact .inr ⟨by omega, top⟩
  unfold Char.ofNat
  rw [dif_pos valid]
  rfl

/-- A byte below 0x80 is a character of its own, whatever sequence it breaks. -/
theorem step_ascii {state : State} (legal : state.Legal) {byte : Nat} (ascii : byte < 0x80) :
    (state.step byte).char = some (Char.ofNat byte) ∧ (state.step byte).state = .start := by
  have alone : (first byte).char = some (Char.ofNat byte) ∧ (first byte).state = .start := by
    unfold first
    rw [if_pos ascii]
    exact ⟨rfl, rfl⟩
  cases state with
  | start => exact alone
  | inside bits after low high =>
    have outside : ¬(low ≤ byte ∧ byte ≤ high) := by
      have := legal.1
      omega
    rw [step_break outside]
    exact alone

/-- A byte from 0x80 on completes only characters that are not ASCII. -/
theorem step_not_ascii {state : State} (legal : state.Legal) {byte : Nat} {char : Char}
    (high : 0x80 ≤ byte) (made : (state.step byte).char = some char) : 0x80 ≤ char.toNat := by
  have opened : (first byte).char = none := by
    unfold first
    rw [if_neg (by omega)]
    repeat' split
    all_goals rfl
  cases state with
  | start =>
    change (first byte).char = some char at made
    rw [opened] at made
    cases made
  | inside bits after low top =>
    obtain ⟨tail, ordered, within, large, scalar⟩ := legal
    by_cases continued : low ≤ byte ∧ byte ≤ top
    · cases after with
      | succ after =>
        rw [step_inner continued] at made
        cases made
      | zero =>
        rw [step_last continued] at made
        obtain rfl := Option.some.inj made
        simp only [State.least, State.bound, State.weight] at large scalar
        rw [toNat_ofNat (by omega)]
        omega
    · rw [step_break continued] at made
      change (first byte).char = some char at made
      rw [opened] at made
      cases made

/-- The bytes from a legal state on: an ASCII character is read from its own byte only. -/
theorem mem_of_mem_decodeFrom {state : State} (legal : state.Legal) {bytes : List UInt8}
    {char : Char} (inside : char ∈ decodeFrom state bytes) (ascii : char.toNat < 0x80) :
    UInt8.ofNat char.toNat ∈ bytes := by
  induction bytes generalizing state with
  | nil => cases inside
  | cons byte bytes ih =>
    rw [decodeFrom] at inside
    rcases List.mem_append.mp inside with made | later
    · have made : (state.step byte.toNat).char = some char := Option.mem_toList.mp made
      by_cases high : 0x80 ≤ byte.toNat
      · have := step_not_ascii legal high made
        omega
      · have own := (step_ascii legal (Nat.lt_of_not_le high)).1
        rw [own] at made
        obtain rfl := Option.some.inj made
        rw [toNat_ofNat (by omega), UInt8.ofNat_toNat]
        exact List.mem_cons_self
    · exact List.mem_cons_of_mem byte (ih (step_legal legal _) later)

/-- An ASCII character of a decoded text is a byte of it. -/
theorem mem_of_mem_decodeLossy {bytes : List UInt8} {char : Char}
    (inside : char ∈ decodeLossy bytes) (ascii : char.toNat < 0x80) :
    UInt8.ofNat char.toNat ∈ bytes :=
  mem_of_mem_decodeFrom start_legal inside ascii

/-- A last byte below 0x80 is the last character of the text, from any legal state. -/
theorem decodeFrom_concat_ascii {state : State} (legal : state.Legal) (bytes : List UInt8)
    {byte : UInt8} (ascii : byte.toNat < 0x80) :
    decodeFrom state (bytes ++ [byte]) =
      decodeFrom state bytes ++ [Char.ofNat byte.toNat] := by
  induction bytes generalizing state with
  | nil =>
    obtain ⟨made, _⟩ := step_ascii legal ascii
    change (state.step byte.toNat).char.toList ++ [] = [] ++ [Char.ofNat byte.toNat]
    rw [made]
    rfl
  | cons head bytes ih =>
    rw [List.cons_append, decodeFrom, decodeFrom, ih (step_legal legal _), List.append_assoc]

/-- A last byte below 0x80 is the last character of the text. -/
theorem decodeLossy_concat_ascii (bytes : List UInt8) {byte : UInt8}
    (ascii : byte.toNat < 0x80) :
    decodeLossy (bytes ++ [byte]) = decodeLossy bytes ++ [Char.ofNat byte.toNat] :=
  decodeFrom_concat_ascii start_legal bytes ascii

end CertConsole.Utf8
