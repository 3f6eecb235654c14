import CertConsole.Proofs.ReplyLine
import CertConsole.Proofs.Utf8Sequence

/-!
# Ill-formed chunks

Where no character is written, decoding drops the longest chunk that some character could still
have begun with, and goes on behind it. `Chunked` states that rule without a decoder, and `scan` is
a reader without it: where no character is written it goes one byte on and looks again. Both give
the text that the decoder gives (`decodeLossy_naive`), because a dropped chunk is a first byte with
continuation bytes behind it, and no character begins with one of those.
-/
namespace CertConsole.Utf8

/-- Some character is written with these bytes first. -/
def Opens (part : List UInt8) : Prop := ∃ char, part <+: String.utf8EncodeChar char

/-- An ill-formed chunk before other bytes: no character is written there, and the chunk is the
longest one that a character begins with, or a single byte if none begins so. -/
structure IllFormed (chunk rest : List UInt8) : Prop where
  noChar : ∀ char, ¬String.utf8EncodeChar char <+: chunk ++ rest
  shape : chunk ≠ [] ∧ Opens chunk ∨ chunk.length = 1
  longest : ∀ part, part <+: chunk ++ rest → Opens part → part.length ≤ chunk.length

/-- The text of a byte string of which the ill-formed chunks are dropped. -/
inductive Chunked : List UInt8 → List Char → Prop where
  | nil : Chunked [] []
  | char (char : Char) {rest : List UInt8} {text : List Char} (behind : Chunked rest text) :
      Chunked (String.utf8EncodeChar char ++ rest) (char :: text)
  | illFormed {chunk rest : List UInt8} {text : List Char} (dropped : IllFormed chunk rest)
      (behind : Chunked rest text) : Chunked (chunk ++ rest) text

/-- The character that is written at the front. -/
def charAt? (bytes : List UInt8) : Option Char := bytes.toByteArray.utf8DecodeChar? 0

/-- The character at the front is the one whose bytes are there. -/
theorem charAt?_eq_some_iff {bytes : List UInt8} {char : Char} :
    charAt? bytes = some char ↔ String.utf8EncodeChar char <+: bytes := by
  constructor
  · intro found
    obtain ⟨behind, split⟩ := ByteArray.exists_of_utf8DecodeChar?_eq_some found
    refine ⟨behind.data.toList, ?_⟩
    rw [← List.toList_data_toByteArray (l := bytes), split, ByteArray.toList_data_append,
      List.toList_data_toByteArray]
  · rintro ⟨behind, rfl⟩
    rw [charAt?, List.toByteArray_append]
    exact ByteArray.utf8DecodeChar?_utf8EncodeChar_append

/-- The characters of a byte string, looked for at each byte. -/
def scan : List UInt8 → List Char
  | [] => []
  | byte :: rest =>
    match charAt? (byte :: rest) with
    | some char => char :: scan ((byte :: rest).drop char.utf8Size)
    | none => scan rest
termination_by bytes => bytes.length
decreasing_by
  · have written := char.utf8Size_pos
    simp only [List.length_drop, List.length_cons]
    omega
  · exact Nat.lt_add_one _

/-- A written character is read and passed. -/
theorem scan_encodeChar (char : Char) (rest : List UInt8) :
    scan (String.utf8EncodeChar char ++ rest) = char :: scan rest := by
  have found := charAt?_eq_some_iff.mpr (List.prefix_append (String.utf8EncodeChar char) rest)
  cases written : String.utf8EncodeChar char ++ rest with
  | nil => exact absurd (List.append_eq_nil_iff.mp written).1 String.utf8EncodeChar_ne_nil
  | cons byte behind =>
    rw [written] at found
    rw [scan, found]
    simp only
    rw [← written, ← String.length_utf8EncodeChar, List.drop_left]

/-- Where no character is written, one byte is passed. -/
theorem scan_skip {byte : UInt8} {rest : List UInt8}
    (noChar : ∀ char, ¬String.utf8EncodeChar char <+: byte :: rest) :
    scan (byte :: rest) = scan rest := by
  rw [scan]
  cases found : charAt? (byte :: rest) with
  | none => rfl
  | some char => exact absurd (charAt?_eq_some_iff.mp found) (noChar char)

/-- A continuation byte. -/
def IsTail (byte : UInt8) : Prop := 0x80 ≤ byte.toNat ∧ byte.toNat < 0xC0

/-- The bytes of a number behind a first one are continuation bytes. -/
theorem isTail_of_mem_tail {count value : Nat} {byte : UInt8} (inside : byte ∈ tail count value) :
    IsTail byte := by
  induction count with
  | zero => cases inside
  | succ count ih =>
    rcases List.mem_cons.mp inside with rfl | later
    · unfold IsTail
      rw [toNat_tailByte]
      omega
    · exact ih later

/-- All bytes of a character but the first are continuation bytes. -/
theorem isTail_of_mem_encodeChar {char : Char} {lead byte : UInt8} {rest : List UInt8}
    (written : String.utf8EncodeChar char = lead :: rest) (inside : byte ∈ rest) : IsTail byte := by
  obtain ⟨first, count, shape⟩ := exists_encodeChar char
  cases shape.symm.trans written
  exact isTail_of_mem_tail inside

/-- No character begins with a continuation byte. -/
theorem IsTail.noChar {byte : UInt8} (isTail : IsTail byte) (rest : List UInt8) (char : Char) :
    ¬String.utf8EncodeChar char <+: byte :: rest := by
  rintro ⟨behind, written⟩
  cases bytes : String.utf8EncodeChar char with
  | nil => exact String.utf8EncodeChar_ne_nil bytes
  | cons lead more =>
    rw [bytes] at written
    cases written
    have taken := (completes_start_iff.mpr bytes.symm).1
    rw [State.step, first_none (.inl ⟨isTail.1, Nat.lt_trans isTail.2 (by decide)⟩)] at taken
    cases taken

/-- Continuation bytes are passed one by one. -/
theorem scan_tail {part rest : List UInt8} (isTail : ∀ byte ∈ part, IsTail byte) :
    scan (part ++ rest) = scan rest := by
  induction part with
  | nil => rfl
  | cons byte part ih =>
    rw [List.forall_mem_cons] at isTail
    rw [List.cons_append, scan_skip (isTail.1.noChar _), ih isTail.2]

/-- What begins what a character begins with begins that character. -/
theorem Opens.of_prefix {part whole : List UInt8} (opens : Opens whole) (front : part <+: whole) :
    Opens part := by
  obtain ⟨char, written⟩ := opens
  exact ⟨char, front.trans written⟩

/-- Behind the first byte of what a character begins with there are continuation bytes only. -/
theorem Opens.isTail {lead byte : UInt8} {rest : List UInt8} (opens : Opens (lead :: rest))
    (inside : byte ∈ rest) : IsTail byte := by
  obtain ⟨char, behind, written⟩ := opens
  exact isTail_of_mem_encodeChar written.symm (List.mem_append_left _ inside)

/-- What a character begins with leads to a state from which the rest of each such character is
completed, and has given nothing by then. -/
theorem State.Completes.walk {state : State} (legal : state.Legal) {part behind : List UInt8}
    {char : Char} (completes : state.Completes (part ++ behind) char) (proper : behind ≠ []) :
    ∃ next : State, next.Legal ∧
      (∀ rest, Utf8.decodeFrom state (part ++ rest) = Utf8.decodeFrom next rest) ∧
      ∀ rest other, state.Completes (part ++ rest) other ↔ next.Completes rest other := by
  -- No byte of the part is the last one of the character, because more of it is behind.
  induction part generalizing state with
  | nil => exact ⟨state, legal, fun _ => rfl, fun _ _ => Iff.rfl⟩
  | cons byte part ih =>
    obtain ⟨taken, completes⟩ := completes
    have after := step_legal legal byte.toNat
    rcases step_taken taken with ⟨made, step⟩ | ⟨bits, count, low, high, step⟩ <;>
      rw [step] at completes after
    · exact absurd (List.append_eq_nil_iff.mp completes.1).2 proper
    · obtain ⟨next, nextLegal, same, alike⟩ := ih after completes
      refine ⟨next, nextLegal, fun rest => ?_, fun rest other => ?_⟩
      · rw [List.cons_append, Utf8.decodeFrom, step]
        exact same rest
      · rw [List.cons_append, State.Completes, step]
        exact (and_iff_right rfl).trans (alike rest other)

section IllFormed

variable {chunk rest : List UInt8}

/-- An ill-formed chunk is a byte with continuation bytes behind it. -/
theorem IllFormed.cons (illFormed : IllFormed chunk rest) :
    ∃ lead part, chunk = lead :: part ∧ ∀ byte ∈ part, IsTail byte := by
  rcases illFormed.shape with ⟨present, opens⟩ | single
  · obtain ⟨lead, part, rfl⟩ := List.exists_cons_of_ne_nil present
    exact ⟨lead, part, rfl, fun byte inside => opens.isTail inside⟩
  · obtain ⟨lead, rfl⟩ := List.length_eq_one_iff.mp single
    exact ⟨lead, [], rfl, fun byte inside => absurd inside List.not_mem_nil⟩

/-- Looking at each byte finds nothing in an ill-formed chunk. -/
theorem IllFormed.scan (illFormed : IllFormed chunk rest) :
    Utf8.scan (chunk ++ rest) = Utf8.scan rest := by
  obtain ⟨lead, part, rfl, isTail⟩ := illFormed.cons
  have noChar := illFormed.noChar
  rw [List.cons_append] at noChar ⊢
  rw [scan_skip noChar, scan_tail isTail]

/-- The decoder gives nothing for an ill-formed chunk and is at its start behind it. -/
theorem IllFormed.decodeLossy (illFormed : IllFormed chunk rest) :
    Utf8.decodeLossy (chunk ++ rest) = Utf8.decodeLossy rest := by
  by_cases opens : Opens chunk
  · -- The chunk is walked through, and the byte behind it would have made it longer if taken.
    obtain ⟨char, behind, written⟩ := opens
    have proper : behind ≠ [] := by
      rintro rfl
      rw [List.append_nil] at written
      exact illFormed.noChar char (written ▸ List.prefix_append chunk rest)
    obtain ⟨next, legal, same, alike⟩ :=
      (completes_start_iff.mpr written).walk start_legal proper
    rw [Utf8.decodeLossy, same rest]
    cases rest with
    | nil => rfl
    | cons byte rest =>
      refine decodeFrom_refused (Bool.of_not_eq_false fun taken => ?_)
      obtain ⟨more, other, completes⟩ := completes_of_taken legal taken
      have longer : Opens (chunk ++ [byte]) := by
        refine ⟨other, more, ?_⟩
        rw [List.append_assoc]
        exact completes_start_iff.mp ((alike _ _).mpr completes)
      have bound := illFormed.longest (chunk ++ [byte]) ⟨rest, List.append_assoc _ _ _⟩ longer
      rw [List.length_append] at bound
      exact absurd bound (Nat.not_succ_le_self _)
  · -- No character begins so: the chunk is one byte, and it is refused.
    rcases illFormed.shape with ⟨_, opened⟩ | single
    · exact absurd opened opens
    obtain ⟨byte, rfl⟩ := List.length_eq_one_iff.mp single
    have refused : first byte.toNat = ⟨.start, none, true⟩ := by
      by_contra mistaken
      have taken : (State.start.step byte.toNat).illFormed = false := by
        rcases first_cases byte.toNat with ⟨_, step⟩ | ⟨_, _, _, _, step⟩ | step
        · rw [State.step, step]
        · rw [State.step, step]
        · exact absurd step mistaken
      obtain ⟨more, char, completes⟩ := completes_of_taken start_legal taken
      exact opens ⟨char, more, completes_start_iff.mp completes⟩
    change Utf8.decodeFrom .start (byte :: rest) = _
    rw [decodeFrom, State.step, refused]
    rfl

end IllFormed

/-- Bytes that a character begins with go on to the longest such bytes. -/
theorem Opens.extend {part : List UInt8} (opens : Opens part) (rest : List UInt8) :
    ∃ more behind, rest = more ++ behind ∧ Opens (part ++ more) ∧
      ∀ other, other <+: part ++ rest → Opens other → other.length ≤ (part ++ more).length := by
  induction rest generalizing part with
  | nil =>
    refine ⟨[], [], rfl, by rwa [List.append_nil], fun other front _ => front.length_le⟩
  | cons byte rest ih =>
    by_cases longer : Opens (part ++ [byte])
    · obtain ⟨more, behind, rfl, opened, longest⟩ := ih longer
      rw [List.append_assoc, List.singleton_append] at opened
      rw [List.append_assoc, List.append_assoc] at longest
      exact ⟨byte :: more, behind, rfl, opened, longest⟩
    · refine ⟨[], byte :: rest, rfl, by rwa [List.append_nil], fun other front found => ?_⟩
      rw [List.append_nil]
      by_contra beyond
      have covered : part ++ [byte] <+: other := by
        refine List.prefix_of_prefix_length_le ⟨rest, List.append_assoc _ _ _⟩ front ?_
        rw [List.length_append]
        exact Nat.lt_of_not_le beyond
      exact longer (found.of_prefix covered)

/-- Where no character is written, there is an ill-formed chunk. -/
theorem exists_illFormed {byte : UInt8} {bytes : List UInt8}
    (noChar : ∀ char, ¬String.utf8EncodeChar char <+: byte :: bytes) :
    ∃ chunk rest, byte :: bytes = chunk ++ rest ∧ chunk ≠ [] ∧ IllFormed chunk rest := by
  by_cases opens : Opens [byte]
  · obtain ⟨more, behind, rfl, opened, longest⟩ := opens.extend bytes
    exact ⟨byte :: more, behind, rfl, List.cons_ne_nil _ _, noChar,
      .inl ⟨List.cons_ne_nil _ _, opened⟩, longest⟩
  · refine ⟨[byte], bytes, rfl, List.cons_ne_nil _ _, noChar, .inr rfl, fun part front found => ?_⟩
    cases part with
    | nil => exact Nat.zero_le _
    | cons lead part =>
      obtain ⟨rfl, _⟩ := List.cons_prefix_cons.mp front
      exact absurd (found.of_prefix (List.prefix_append [lead] part)) opens

/-- Every byte string is cut into characters and ill-formed chunks. -/
theorem exists_chunked : ∀ bytes : List UInt8, ∃ text, Chunked bytes text
  | [] => ⟨[], .nil⟩
  | byte :: bytes => by
    by_cases written : ∃ char, String.utf8EncodeChar char <+: byte :: bytes
    · obtain ⟨char, rest, whole⟩ := written
      have shorter : rest.length < bytes.length + 1 := by
        rw [← List.length_cons (a := byte), ← whole, List.length_append]
        exact Nat.lt_add_of_pos_left (List.length_pos_iff.mpr String.utf8EncodeChar_ne_nil)
      obtain ⟨text, behind⟩ := exists_chunked rest
      rw [← whole]
      exact ⟨char :: text, .char char behind⟩
    · obtain ⟨chunk, rest, whole, present, illFormed⟩ :=
        exists_illFormed (not_exists.mp written)
      have shorter : rest.length < bytes.length + 1 := by
        rw [← List.length_cons (a := byte), whole, List.length_append]
        exact Nat.lt_add_of_pos_left (List.length_pos_iff.mpr present)
      obtain ⟨text, behind⟩ := exists_chunked rest
      rw [whole]
      exact ⟨text, .illFormed illFormed behind⟩
termination_by bytes => bytes.length

/-- The text of the characters between ill-formed chunks is what looking at each byte finds. -/
theorem Chunked.scan {bytes : List UInt8} {text : List Char} (chunked : Chunked bytes text) :
    Utf8.scan bytes = text := by
  induction chunked with
  | nil => rw [Utf8.scan]
  | char char _ ih => rw [scan_encodeChar, ih]
  | illFormed dropped _ ih => rw [dropped.scan, ih]

/-- The text of the characters between ill-formed chunks is what the decoder gives. -/
theorem Chunked.decodeLossy {bytes : List UInt8} {text : List Char}
    (chunked : Chunked bytes text) : Utf8.decodeLossy bytes = text := by
  induction chunked with
  | nil => rfl
  | char char _ ih => rw [decodeLossy_encodeChar, ih]
  | illFormed dropped _ ih => rw [dropped.decodeLossy, ih]

/-- **Decoding finds what looking at each byte finds.** Cutting a byte string into characters and
ill-formed chunks leaves one text. It is what `scan` finds, and it is what the decoder gives. A
reply line is that text without the blanks at its two ends. -/
theorem decodeLossy_naive (bytes : List UInt8) :
    (∀ text, Chunked bytes text ↔ text = scan bytes) ∧
      decodeLossy bytes = scan bytes ∧
        Text.Core (scan bytes) (Reply.decodeLine bytes).toList := by
  obtain ⟨text, chunked⟩ := exists_chunked bytes
  have found : scan bytes = text := chunked.scan
  have given : decodeLossy bytes = text := chunked.decodeLossy
  refine ⟨fun other => ⟨fun cut => cut.scan.symm, ?_⟩, given.trans found.symm, ?_⟩
  · rintro rfl
    rwa [found]
  · rw [found, ← given, Reply.decodeLine, String.toList_ofList]
    exact Text.trim_core _

/-- A sequence of three bytes is broken by a letter after two, and one of four is whole. -/
example : decodeLossy [0xE2, 0x82, 0x41, 0xF0, 0x9F, 0x98, 0x80, 0xFF] = ['A', '😀'] := by decide

end CertConsole.Utf8
