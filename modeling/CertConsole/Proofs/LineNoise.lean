import CertConsole.Proofs.Utf8Boundary

/-!
# Line noise

Bytes that decode to no character may stand before, between and behind the characters of a reply
without hiding a phrase of it (`noise_hides_nothing`). Decoding drops them wherever they stand, and
trimming takes nothing from a phrase, because every phrase that the upload looks for begins and ends
with a character that is no blank (`trim_sameAnswers`).
-/
namespace CertConsole

namespace Text

/-- A phrase that neither begins nor ends with a blank. -/
def Visible (phrase : List Char) : Prop :=
  phrase.head?.any isBlank = false ∧ phrase.getLast?.any isBlank = false

instance (phrase : List Char) : Decidable (Visible phrase) :=
  inferInstanceAs (Decidable (_ ∧ _))

/-- Blanks in front of a text are no part of a visible phrase. -/
theorem Visible.infix_behind {phrase : List Char} (visible : Visible phrase)
    {front text : List Char} (blank : ∀ char ∈ front, isBlank char = true) :
    phrase <:+: front ++ text ↔ phrase <:+: text := by
  induction front with
  | nil => rfl
  | cons char front ih =>
    rw [List.forall_mem_cons] at blank
    rw [List.cons_append, List.infix_cons_iff, ih blank.2, or_iff_right_iff_imp]
    intro begins
    cases phrase with
    | nil => exact List.nil_infix
    | cons first phrase =>
      -- The phrase would begin with the blank.
      have same : first = char := (List.cons_prefix_cons.mp begins).1
      have shown : isBlank first = false := visible.1
      rw [same, blank.1] at shown
      cases shown

/-- A phrase that is visible is so when it is read backwards. -/
theorem Visible.reverse {phrase : List Char} (visible : Visible phrase) :
    Visible phrase.reverse := by
  unfold Visible
  rw [List.head?_reverse, List.getLast?_reverse]
  exact visible.symm

/-- Blanks behind a text are no part of a visible phrase. -/
theorem Visible.infix_before {phrase : List Char} (visible : Visible phrase)
    {text back : List Char} (blank : ∀ char ∈ back, isBlank char = true) :
    phrase <:+: text ++ back ↔ phrase <:+: text := by
  have backwards : ∀ char ∈ back.reverse, isBlank char = true := by
    intro char inside
    exact blank char (List.mem_reverse.mp inside)
  rw [← List.reverse_infix, List.reverse_append, visible.reverse.infix_behind backwards,
    List.reverse_infix]

/-- A visible phrase stands in a text exactly if it stands between the blanks at its ends. -/
theorem Core.infix_iff {text kept phrase : List Char} (core : Core text kept)
    (visible : Visible phrase) : phrase <:+: kept ↔ phrase <:+: text := by
  obtain ⟨front, back, whole, before, behind⟩ := core.split
  rw [whole, visible.infix_before behind, visible.infix_behind before]

/-- A trimmed text mentions the visible phrases that the text mentions. -/
theorem mentions_trim (text : List Char) {phrase : String} (visible : Visible phrase.toList) :
    mentions (String.ofList (trim text)) phrase = mentions (String.ofList text) phrase := by
  rw [Bool.eq_iff_iff, mentions, mentions, occurs_iff, occurs_iff, String.toList_ofList,
    String.toList_ofList]
  exact (trim_core text).infix_iff visible

end Text

namespace Reply

open Text

/-- Two lines tell the same of an upload. -/
structure SameAnswers (line other : String) : Prop where
  accepts : acceptsUpload line = acceptsUpload other
  refuses : refusesUpload line = refusesUpload other
  confirms : confirmsSave line = confirmsSave other
  field : caField? line = caField? other

/-- The blanks at the ends of a text have no part in what it tells. -/
theorem trim_sameAnswers (text : List Char) :
    SameAnswers (String.ofList (trim text)) (String.ofList text) := by
  have same (phrase : String) (visible : Visible phrase.toList) :
      mentions (String.ofList (trim text)) phrase = mentions (String.ofList text) phrase :=
    mentions_trim text visible
  constructor
  · exact same _ (by decide)
  · unfold refusesUpload
    rw [same "Error" (by decide), same "error" (by decide),
      same "upload" (by decide), same "opening" (by decide)]
  · exact same _ (by decide)
  · unfold caField?
    rw [same "CA:" (by decide), same "CA: YES" (by decide)]

end Reply

/-- Bytes that decode to no character. -/
structure Noise where
  bytes : List UInt8
  silent : Utf8.decodeLossy bytes = []

/-- A character of a reply as it arrives, and the noise behind it. -/
structure NoisyChar where
  char : Char
  noise : Noise

/-- The bytes of a character and of the noise behind it. -/
def NoisyChar.bytes (sign : NoisyChar) : List UInt8 :=
  String.utf8EncodeChar sign.char ++ sign.noise.bytes

namespace Reply

/-- Noise before a text, between its characters and behind it is dropped. -/
theorem decodeLossy_noisy (before : Noise) (signs : List NoisyChar) :
    Utf8.decodeLossy (before.bytes ++ signs.flatMap NoisyChar.bytes) =
      signs.map NoisyChar.char := by
  induction signs generalizing before with
  | nil =>
    rw [List.flatMap_nil, List.append_nil]
    exact before.silent
  | cons sign signs ih =>
    rw [List.flatMap_cons, NoisyChar.bytes, List.append_assoc, Utf8.decodeLossy_around,
      before.silent, ih sign.noise]
    rfl

/-- **Noise on the line hides no phrase.** Whatever noise stands before, between and behind the
characters of a text, the line that is read is the text without the blanks at its two ends, and it
gives every answer that the text gives. -/
theorem noise_hides_nothing (before : Noise) (signs : List NoisyChar) :
    let text := signs.map NoisyChar.char
    let line := decodeLine (before.bytes ++ signs.flatMap NoisyChar.bytes)
    line = String.ofList (Text.trim text) ∧ Text.Core text line.toList ∧
      SameAnswers line (String.ofList text) := by
  intro text line
  have trimmed : line = String.ofList (Text.trim text) :=
    congrArg (fun decoded => String.ofList (Text.trim decoded)) (decodeLossy_noisy before signs)
  refine ⟨trimmed, ?_, ?_⟩
  · rw [trimmed, String.toList_ofList]
    exact Text.trim_core text
  · rw [trimmed]
    exact trim_sameAnswers text

/-- A sequence that breaks off, a byte that begins none and one that goes on with none. -/
example : (decodeLine [0xE2, 0x82, 0x43, 0xFF, 0x41, 0xC3, 0xA9, 0xBF, 0x3A]).toList =
    ['C', 'A', 'é', ':'] := by decide

end Reply

end CertConsole
