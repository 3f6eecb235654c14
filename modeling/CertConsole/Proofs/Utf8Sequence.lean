import CertConsole.Proofs.Utf8
import Mathlib.Tactic.SplitIfs

/-!
# Well-formed sequences

The decoder against the bytes that characters are written with. From its start it completes a
character exactly with the sequence that the character is written as (`completes_start_iff`): the
bounds on the second byte leave out overlong forms, surrogates and numbers above the last code
point, and nothing else. So a written character is read back whatever follows it
(`decodeLossy_encodeChar`), and a byte is taken only where some character has it next
(`completes_of_taken`).
-/
namespace CertConsole.Utf8

/-- Some bytes complete a character from a state: each is taken without a mistake, and the last one
is the first that completes a character. -/
def State.Completes : State → List UInt8 → Char → Prop
  | _, [], _ => False
  | state, byte :: rest, char =>
    (state.step byte.toNat).illFormed = false ∧
      match (state.step byte.toNat).char with
      | some made => rest = [] ∧ made = char
      | none => State.Completes (state.step byte.toNat).state rest char

section First

variable {byte : Nat}

theorem first_ascii (ascii : byte < 0x80) : first byte = ⟨.start, some (Char.ofNat byte), false⟩ :=
  if_pos ascii

/-- A first byte of two. -/
theorem first_two (low : 0xC2 ≤ byte) (high : byte < 0xE0) :
    first byte = ⟨.inside (byte - 0xC0) 0 0x80 0xBF, none, false⟩ := by
  unfold first
  rw [if_neg (by omega), if_neg (by omega), if_pos high]

/-- A first byte of three. The lowest one may not begin an overlong form and one may not begin a
surrogate. -/
theorem first_three (low : 0xE0 ≤ byte) (high : byte < 0xF0) :
    first byte = ⟨.inside (byte - 0xE0) 1 (if byte = 0xE0 then 0xA0 else 0x80)
      (if byte = 0xED then 0x9F else 0xBF), none, false⟩ := by
  unfold first
  rw [if_neg (by omega), if_neg (by omega), if_neg (by omega)]
  by_cases least : byte = 0xE0
  · subst least
    rfl
  · by_cases surrogate : byte = 0xED
    · subst surrogate
      rfl
    · simp only [least, surrogate, high, ↓reduceIte]

/-- A first byte of four. The lowest one may not begin an overlong form and the highest one may not
begin a number above the last code point. -/
theorem first_four (low : 0xF0 ≤ byte) (high : byte ≤ 0xF4) :
    first byte = ⟨.inside (byte - 0xF0) 2 (if byte = 0xF0 then 0x90 else 0x80)
      (if byte = 0xF4 then 0x8F else 0xBF), none, false⟩ := by
  have cases : byte = 0xF0 ∨ byte = 0xF1 ∨ byte = 0xF2 ∨ byte = 0xF3 ∨ byte = 0xF4 := by omega
  rcases cases with rfl | rfl | rfl | rfl | rfl <;> rfl

/-- A byte that begins no sequence. -/
theorem first_none (none : 0x80 ≤ byte ∧ byte < 0xC2 ∨ 0xF5 ≤ byte) :
    first byte = ⟨.start, .none, true⟩ := by
  unfold first
  rw [if_neg (by omega)]
  by_cases tail : byte < 0xC2
  · rw [if_pos tail]
  · rw [if_neg tail, if_neg (by omega), if_neg (by omega), if_neg (by omega), if_neg (by omega),
      if_neg (by omega), if_neg (by omega), if_neg (by omega)]

end First

/-- The bytes of a number behind the first one of its sequence, with six bits in each. -/
def tail : Nat → Nat → List UInt8
  | 0, _ => []
  | count + 1, value => UInt8.ofNat (value / State.weight count % 64 + 0x80) :: tail count value

theorem tail_succ (count value : Nat) :
    tail (count + 1) value =
      UInt8.ofNat (value / State.weight count % 64 + 0x80) :: tail count value := rfl

/-- The byte with six bits of a number. -/
theorem toNat_tailByte (value : Nat) :
    (UInt8.ofNat (value % 64 + 0x80)).toNat = value % 64 + 0x80 := by
  rw [UInt8.toNat_ofNat']
  omega

/-- The weight of a byte is what the bytes behind it can tell apart. -/
theorem State.weight_pos (after : Nat) : 0 < State.weight after := by
  induction after with
  | zero => exact Nat.one_pos
  | succ after ih => exact Nat.mul_pos (by decide) ih

/-- Whatever may follow, the numbers that complete a sequence are those with its bits. -/
theorem State.least_bound_iff {bits after value : Nat} :
    (State.least bits after 0x80 ≤ value ∧ value < State.bound bits after 0xBF) ↔
      value / State.weight (after + 1) = bits := by
  rw [Nat.div_eq_iff (State.weight_pos _)]
  unfold State.least State.bound
  rw [State.weight]
  have lower : (bits * 64 + (0x80 - 0x80)) * State.weight after =
      bits * (64 * State.weight after) := by
    rw [Nat.sub_self, Nat.add_zero, Nat.mul_assoc]
  have upper : (bits * 64 + (0xBF - 0x80) + 1) * State.weight after =
      bits * (64 * State.weight after) + 64 * State.weight after := by
    rw [show bits * 64 + (0xBF - 0x80) + 1 = (bits + 1) * 64 by omega, Nat.mul_assoc,
      Nat.succ_mul]
  have positive := State.weight_pos after
  omega

section Completes

variable {bits after low high : Nat} {bytes : List UInt8} {char : Char}

/-- What completes an open sequence that wants one byte more. -/
theorem completes_last :
    (State.inside bits 0 low high).Completes bytes char ↔
      ∃ byte, bytes = [byte] ∧ (low ≤ byte.toNat ∧ byte.toNat ≤ high) ∧
        Char.ofNat (bits * 64 + (byte.toNat - 0x80)) = char := by
  cases bytes with
  | nil => simp only [State.Completes, List.nil_eq, reduceCtorEq, false_and, exists_false]
  | cons byte rest =>
    by_cases continued : low ≤ byte.toNat ∧ byte.toNat ≤ high
    · rw [State.Completes, step_last continued]
      constructor
      · rintro ⟨-, rfl, made⟩
        exact ⟨byte, rfl, continued, made⟩
      · rintro ⟨_, same, -, made⟩
        cases same
        exact ⟨rfl, rfl, made⟩
    · rw [State.Completes, step_break continued]
      constructor
      · rintro ⟨broken, -⟩
        cases broken
      · rintro ⟨_, same, within, -⟩
        cases same
        exact absurd within continued

/-- What completes an open sequence that wants more than one byte. -/
theorem completes_inner :
    (State.inside bits (after + 1) low high).Completes bytes char ↔
      ∃ byte rest, bytes = byte :: rest ∧ (low ≤ byte.toNat ∧ byte.toNat ≤ high) ∧
        (State.inside (bits * 64 + (byte.toNat - 0x80)) after 0x80 0xBF).Completes rest char := by
  cases bytes with
  | nil => simp only [State.Completes, List.nil_eq, reduceCtorEq, false_and, exists_false]
  | cons byte rest =>
    by_cases continued : low ≤ byte.toNat ∧ byte.toNat ≤ high
    · rw [State.Completes, step_inner continued]
      constructor
      · rintro ⟨-, completes⟩
        exact ⟨byte, rest, rfl, continued, completes⟩
      · rintro ⟨_, _, same, -, completes⟩
        cases same
        exact ⟨rfl, completes⟩
    · rw [State.Completes, step_break continued]
      constructor
      · rintro ⟨broken, -⟩
        cases broken
      · rintro ⟨_, _, same, within, -⟩
        cases same
        exact absurd within continued

/-- What completes an open sequence: the remaining bytes of a number that the bounds on the next
byte let it have. -/
theorem completes_value (lower : 0x80 ≤ low) (ordered : low ≤ high) (upper : high ≤ 0xBF) :
    (State.inside bits after low high).Completes bytes char ↔
      ∃ value, (State.least bits after low ≤ value ∧ value < State.bound bits after high) ∧
        bytes = tail (after + 1) value ∧ Char.ofNat value = char := by
  -- On the bytes that follow the next one: each adds its six bits, and behind it there are no
  -- bounds but those of a continuation byte.
  induction after generalizing bits low high bytes with
  | zero =>
    simp only [completes_last, State.least, State.bound, State.weight, tail, Nat.mul_one,
      Nat.div_one]
    constructor
    · rintro ⟨byte, rfl, within, made⟩
      refine ⟨_, ⟨by omega, by omega⟩, ?_, made⟩
      rw [List.cons_eq_cons]
      refine ⟨UInt8.toNat_inj.mp ?_, rfl⟩
      rw [toNat_tailByte]
      omega
    · rintro ⟨value, within, rfl, made⟩
      refine ⟨_, rfl, ?_, ?_⟩ <;> rw [toNat_tailByte]
      · omega
      · rw [show bits * 64 + (value % 64 + 0x80 - 0x80) = value by omega, made]
  | succ after ih =>
    rw [completes_inner]
    constructor
    · rintro ⟨byte, rest, rfl, within, completes⟩
      obtain ⟨value, range, rfl, made⟩ :=
        (ih (Nat.le_refl _) (by decide) (Nat.le_refl _)).mp completes
      have shifted := State.least_bound_iff.mp range
      refine ⟨value, ⟨?_, ?_⟩, ?_, made⟩
      · rw [State.least, ← Nat.le_div_iff_mul_le (State.weight_pos _)]
        omega
      · rw [State.bound, ← Nat.div_lt_iff_lt_mul (State.weight_pos _)]
        omega
      · rw [tail_succ (after + 1), shifted, List.cons_eq_cons]
        refine ⟨UInt8.toNat_inj.mp ?_, rfl⟩
        rw [toNat_tailByte]
        omega
    · rintro ⟨value, ⟨least, bound⟩, rfl, made⟩
      rw [State.least, ← Nat.le_div_iff_mul_le (State.weight_pos _)] at least
      rw [State.bound, ← Nat.div_lt_iff_lt_mul (State.weight_pos _)] at bound
      refine ⟨_, _, rfl, ?_, (ih (Nat.le_refl _) (by decide) (Nat.le_refl _)).mpr
        ⟨value, State.least_bound_iff.mpr ?_, rfl, made⟩⟩ <;> rw [toNat_tailByte] <;> omega

/-- What completes an open sequence: the remaining bytes of a character whose number the bounds on
the next byte let it have. -/
theorem completes_inside (legal : (State.inside bits after low high).Legal) :
    (State.inside bits after low high).Completes bytes char ↔
      (State.least bits after low ≤ char.toNat ∧ char.toNat < State.bound bits after high) ∧
        bytes = tail (after + 1) char.toNat := by
  obtain ⟨lower, ordered, upper, _, scalar⟩ := legal
  rw [completes_value lower ordered upper]
  constructor
  · rintro ⟨value, range, rfl, rfl⟩
    rw [toNat_ofNat (by omega)]
    exact ⟨range, rfl⟩
  · rintro ⟨range, rfl⟩
    exact ⟨char.toNat, range, rfl, Char.ofNat_toNat char⟩

end Completes

/-- The number of a character is a code point and no surrogate. -/
theorem toNat_scalar (char : Char) :
    char.toNat < 0xD800 ∨ 0xE000 ≤ char.toNat ∧ char.toNat < 0x110000 := char.valid

section Encoding

variable {char : Char}

/-- A character of one byte. -/
theorem encodeChar_one (small : char.toNat < 0x80) :
    String.utf8EncodeChar char = [UInt8.ofNat char.toNat] :=
  if_pos (Nat.le_of_lt_succ small)

/-- A character of two bytes. -/
theorem encodeChar_two (least : 0x80 ≤ char.toNat) (bound : char.toNat < 0x800) :
    String.utf8EncodeChar char = UInt8.ofNat (char.toNat / 64 + 0xC0) :: tail 1 char.toNat := by
  have bits : char.toNat / 64 % 0x20 = char.toNat / 64 := Nat.mod_eq_of_lt (by omega)
  unfold String.utf8EncodeChar
  simp only [Char.toNat_val]
  rw [if_neg (by omega), if_pos (by omega), bits, tail, tail, State.weight, Nat.div_one]

/-- A character of three bytes. -/
theorem encodeChar_three (least : 0x800 ≤ char.toNat) (bound : char.toNat < 0x10000) :
    String.utf8EncodeChar char = UInt8.ofNat (char.toNat / 4096 + 0xE0) :: tail 2 char.toNat := by
  have bits : char.toNat / 4096 % 0x10 = char.toNat / 4096 := Nat.mod_eq_of_lt (by omega)
  unfold String.utf8EncodeChar
  simp only [Char.toNat_val]
  rw [if_neg (by omega), if_neg (by omega), if_pos (by omega), bits]
  simp only [tail, State.weight, Nat.div_one, Nat.mul_one]

/-- A character of four bytes. -/
theorem encodeChar_four (least : 0x10000 ≤ char.toNat) :
    String.utf8EncodeChar char =
      UInt8.ofNat (char.toNat / 262144 + 0xF0) :: tail 3 char.toNat := by
  have bound := toNat_scalar char
  have bits : char.toNat / 262144 % 0x08 = char.toNat / 262144 := Nat.mod_eq_of_lt (by omega)
  unfold String.utf8EncodeChar
  simp only [Char.toNat_val]
  rw [if_neg (by omega), if_neg (by omega), if_neg (by omega), bits]
  simp only [tail, State.weight, Nat.div_one, Nat.mul_one]

/-- A character is a first byte and the bytes of its number behind it. -/
theorem exists_encodeChar (char : Char) :
    ∃ lead count, String.utf8EncodeChar char = lead :: tail count char.toNat := by
  by_cases one : char.toNat < 0x80
  · exact ⟨_, 0, encodeChar_one one⟩
  by_cases two : char.toNat < 0x800
  · exact ⟨_, 1, encodeChar_two (by omega) two⟩
  by_cases three : char.toNat < 0x10000
  · exact ⟨_, 2, encodeChar_three (by omega) three⟩
  · exact ⟨_, 3, encodeChar_four (by omega)⟩

end Encoding

section Starts

variable {byte : UInt8} {rest : List UInt8} {char : Char}

/-- A byte that opens a sequence leaves the rest of it to the open state. -/
theorem completes_opened {bits after low high : Nat}
    (opened : first byte.toNat = ⟨.inside bits after low high, none, false⟩) :
    State.start.Completes (byte :: rest) char ↔
      (State.least bits after low ≤ char.toNat ∧ char.toNat < State.bound bits after high) ∧
        rest = tail (after + 1) char.toNat := by
  have legal := first_legal byte.toNat
  rw [opened] at legal
  rw [← completes_inside legal, State.Completes, State.step, opened]
  exact and_iff_right rfl

/-- The sequences of two bytes. -/
theorem completes_two (low : 0xC2 ≤ byte.toNat) (high : byte.toNat < 0xE0) :
    State.start.Completes (byte :: rest) char ↔
      (0x80 ≤ char.toNat ∧ char.toNat / 64 + 0xC0 = byte.toNat) ∧ rest = tail 1 char.toNat := by
  rw [completes_opened (first_two low high)]
  refine and_congr_left fun _ => ?_
  simp only [State.least, State.bound, State.weight]
  omega

/-- The sequences of three bytes. -/
theorem completes_three (low : 0xE0 ≤ byte.toNat) (high : byte.toNat < 0xF0) :
    State.start.Completes (byte :: rest) char ↔
      (0x800 ≤ char.toNat ∧ char.toNat / 4096 + 0xE0 = byte.toNat) ∧ rest = tail 2 char.toNat := by
  have scalar := toNat_scalar char
  rw [completes_opened (first_three low high)]
  refine and_congr_left fun _ => ?_
  simp only [State.least, State.bound, State.weight]
  split_ifs <;> omega

/-- The sequences of four bytes. -/
theorem completes_four (low : 0xF0 ≤ byte.toNat) (high : byte.toNat ≤ 0xF4) :
    State.start.Completes (byte :: rest) char ↔
      (0x10000 ≤ char.toNat ∧ char.toNat / 262144 + 0xF0 = byte.toNat) ∧
        rest = tail 3 char.toNat := by
  have scalar := toNat_scalar char
  rw [completes_opened (first_four low high)]
  refine and_congr_left fun _ => ?_
  simp only [State.least, State.bound, State.weight]
  split_ifs <;> omega

end Starts

/-- A byte is the byte of a number exactly if that is its number. -/
theorem eq_ofNat_iff {byte : UInt8} {value : Nat} (small : value < 0x100) :
    byte = UInt8.ofNat value ↔ value = byte.toNat := by
  rw [← UInt8.toNat_inj, UInt8.toNat_ofNat', Nat.mod_eq_of_lt small, eq_comm]

/-- What the decoder takes for a character is what the character is written as. -/
theorem encodeChar_of_completes {byte : UInt8} {rest : List UInt8} {char : Char}
    (completes : State.start.Completes (byte :: rest) char) :
    byte :: rest = String.utf8EncodeChar char := by
  by_cases one : byte.toNat < 0x80
  · rw [State.Completes, State.step, first_ascii one] at completes
    obtain ⟨-, rfl, rfl⟩ := completes
    have number : (Char.ofNat byte.toNat).toNat = byte.toNat := toNat_ofNat (.inl (by omega))
    rw [encodeChar_one (by omega), number, UInt8.ofNat_toNat]
  by_cases two : 0xC2 ≤ byte.toNat ∧ byte.toNat < 0xE0
  · obtain ⟨⟨least, lead⟩, rfl⟩ := (completes_two two.1 two.2).mp completes
    rw [encodeChar_two least (by omega), ← (eq_ofNat_iff (by omega)).mpr lead]
  by_cases three : 0xE0 ≤ byte.toNat ∧ byte.toNat < 0xF0
  · obtain ⟨⟨least, lead⟩, rfl⟩ := (completes_three three.1 three.2).mp completes
    rw [encodeChar_three least (by omega), ← (eq_ofNat_iff (by omega)).mpr lead]
  by_cases four : 0xF0 ≤ byte.toNat ∧ byte.toNat ≤ 0xF4
  · obtain ⟨⟨least, lead⟩, rfl⟩ := (completes_four four.1 four.2).mp completes
    rw [encodeChar_four least, ← (eq_ofNat_iff (by omega)).mpr lead]
  · rw [State.Completes, State.step, first_none (by omega)] at completes
    cases completes.1

/-- The decoder completes every character with what it is written as. -/
theorem completes_encodeChar (char : Char) :
    State.start.Completes (String.utf8EncodeChar char) char := by
  have scalar := toNat_scalar char
  by_cases one : char.toNat < 0x80
  · have lead : (UInt8.ofNat char.toNat).toNat = char.toNat :=
      ((eq_ofNat_iff (by omega)).mp rfl).symm
    rw [encodeChar_one one, State.Completes, State.step, first_ascii (by omega)]
    exact ⟨rfl, rfl, by rw [lead, Char.ofNat_toNat]⟩
  by_cases two : char.toNat < 0x800
  · have lead : char.toNat / 64 + 0xC0 = (UInt8.ofNat (char.toNat / 64 + 0xC0)).toNat :=
      (eq_ofNat_iff (by omega)).mp rfl
    rw [encodeChar_two (by omega) two, completes_two (by omega) (by omega)]
    exact ⟨⟨by omega, lead⟩, rfl⟩
  by_cases three : char.toNat < 0x10000
  · have lead : char.toNat / 4096 + 0xE0 = (UInt8.ofNat (char.toNat / 4096 + 0xE0)).toNat :=
      (eq_ofNat_iff (by omega)).mp rfl
    rw [encodeChar_three (by omega) three, completes_three (by omega) (by omega)]
    exact ⟨⟨by omega, lead⟩, rfl⟩
  · have lead : char.toNat / 262144 + 0xF0 = (UInt8.ofNat (char.toNat / 262144 + 0xF0)).toNat :=
      (eq_ofNat_iff (by omega)).mp rfl
    rw [encodeChar_four (by omega), completes_four (by omega) (by omega)]
    exact ⟨⟨by omega, lead⟩, rfl⟩

/-- **The sequences that the decoder makes a character of are those that the character is written
as.** So what it refuses is exactly what no character is written as. -/
theorem completes_start_iff {bytes : List UInt8} {char : Char} :
    State.start.Completes bytes char ↔ bytes = String.utf8EncodeChar char := by
  constructor
  · intro completes
    cases bytes with
    | nil => cases completes
    | cons byte rest => exact encodeChar_of_completes completes
  · rintro rfl
    exact completes_encodeChar char

/-- A first byte is a character, opens a sequence, or is a mistake. -/
theorem first_cases (byte : Nat) :
    (∃ char, first byte = ⟨.start, some char, false⟩) ∨
      (∃ bits after low high, first byte = ⟨.inside bits after low high, none, false⟩) ∨
        first byte = ⟨.start, none, true⟩ := by
  by_cases one : byte < 0x80
  · exact .inl ⟨_, first_ascii one⟩
  by_cases two : 0xC2 ≤ byte ∧ byte < 0xE0
  · exact .inr (.inl ⟨_, _, _, _, first_two two.1 two.2⟩)
  by_cases three : 0xE0 ≤ byte ∧ byte < 0xF0
  · exact .inr (.inl ⟨_, _, _, _, first_three three.1 three.2⟩)
  by_cases four : 0xF0 ≤ byte ∧ byte ≤ 0xF4
  · exact .inr (.inl ⟨_, _, _, _, first_four four.1 four.2⟩)
  · exact .inr (.inr (first_none (by omega)))

/-- A step that makes no mistake completes a character or leaves a sequence open. -/
theorem step_taken {state : State} {byte : Nat} (taken : (state.step byte).illFormed = false) :
    (∃ char, state.step byte = ⟨.start, some char, false⟩) ∨
      ∃ bits after low high, state.step byte = ⟨.inside bits after low high, none, false⟩ := by
  cases state with
  | start =>
    rcases first_cases byte with alone | opens | mistake
    · exact .inl alone
    · exact .inr opens
    · rw [State.step, mistake] at taken
      cases taken
  | inside bits after low high =>
    by_cases continued : low ≤ byte ∧ byte ≤ high
    · cases after with
      | zero => exact .inl ⟨_, step_last continued⟩
      | succ after => exact .inr ⟨_, _, _, _, step_inner continued⟩
    · rw [step_break continued] at taken
      cases taken

/-- A byte that is refused is read as if nothing had been open before it. -/
theorem decodeFrom_refused {state : State} {byte : UInt8} {rest : List UInt8}
    (refused : (state.step byte.toNat).illFormed = true) :
    decodeFrom state (byte :: rest) = decodeLossy (byte :: rest) := by
  cases state with
  | start => rfl
  | inside bits after low high =>
    by_cases continued : low ≤ byte.toNat ∧ byte.toNat ≤ high
    · cases after with
      | zero =>
        rw [step_last continued] at refused
        cases refused
      | succ after =>
        rw [step_inner continued] at refused
        cases refused
    · rw [decodeFrom, step_break continued]
      rfl

/-- A completed character is read, and reading starts again behind it. -/
theorem State.Completes.decodeFrom {state : State} {bytes : List UInt8} {char : Char}
    (completes : state.Completes bytes char) (rest : List UInt8) :
    decodeFrom state (bytes ++ rest) = char :: decodeLossy rest := by
  induction bytes generalizing state with
  | nil => cases completes
  | cons byte bytes ih =>
    obtain ⟨taken, completes⟩ := completes
    rw [List.cons_append, Utf8.decodeFrom]
    rcases step_taken taken with ⟨made, step⟩ | ⟨bits, after, low, high, step⟩ <;>
      rw [step] at completes ⊢
    · obtain ⟨rfl, rfl⟩ := completes
      rfl
    · exact ih completes

/-- **A written character is read back, whatever follows it.** -/
theorem decodeLossy_encodeChar (char : Char) (rest : List UInt8) :
    decodeLossy (String.utf8EncodeChar char ++ rest) = char :: decodeLossy rest :=
  (completes_start_iff.mpr rfl).decodeFrom rest

/-- An open sequence can be completed. -/
theorem State.Legal.completes {bits after low high : Nat}
    (legal : (State.inside bits after low high).Legal) :
    ∃ bytes char, (State.inside bits after low high).Completes bytes char := by
  obtain ⟨lower, ordered, upper, _, scalar⟩ := legal
  have nonempty : State.least bits after low < State.bound bits after high := by
    unfold State.least State.bound
    exact Nat.mul_lt_mul_of_pos_right (by omega) (State.weight_pos after)
  exact ⟨_, _, (completes_value lower ordered upper).mpr ⟨_, ⟨Nat.le_refl _, nonempty⟩, rfl, rfl⟩⟩

/-- A byte is taken only where some character has it next. -/
theorem completes_of_taken {state : State} (legal : state.Legal) {byte : UInt8}
    (taken : (state.step byte.toNat).illFormed = false) :
    ∃ rest char, state.Completes (byte :: rest) char := by
  have after := step_legal legal byte.toNat
  rcases step_taken taken with ⟨made, step⟩ | ⟨bits, count, low, high, step⟩
  · refine ⟨[], made, taken, ?_⟩
    rw [step]
    exact ⟨rfl, rfl⟩
  · rw [step] at after
    obtain ⟨rest, char, completes⟩ := after.completes
    refine ⟨rest, char, taken, ?_⟩
    rw [step]
    exact completes

end CertConsole.Utf8
