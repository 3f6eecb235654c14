import CertConsole.Proofs.Port
import CertConsole.Proofs.Utf8
import Mathlib.Data.List.DropRight

/-!
# Reply lines

What is true of every line that is read from a port, whatever the port does. A line feed can only
be the last byte that was collected, decoding makes line feeds of nothing else, and trimming takes
it away with the other blanks at the ends.
-/
namespace CertConsole

namespace Text

/-- Trimming takes blanks from the front and then from the back. -/
theorem trim_eq (text : List Char) : trim text = (text.dropWhile isBlank).rdropWhile isBlank := rfl

/-- Trimming adds nothing. -/
theorem mem_of_mem_trim {text : List Char} {char : Char} (inside : char ∈ trim text) :
    char ∈ text := by
  have kept := (List.rdropWhile_prefix isBlank (text.dropWhile isBlank)).subset inside
  exact (List.dropWhile_suffix isBlank).subset kept

/-- A blank behind a text is trimmed away. -/
theorem trim_concat_blank (text : List Char) {char : Char} (blank : isBlank char = true) :
    trim (text ++ [char]) = trim text := by
  rw [trim_eq, trim_eq, List.dropWhile_append]
  by_cases empty : (text.dropWhile isBlank).isEmpty
  · rw [if_pos empty, List.isEmpty_iff.mp empty, List.dropWhile_cons_of_pos blank,
      List.dropWhile_nil]
  · rw [if_neg empty, List.rdropWhile_concat_pos _ _ _ blank]

/-- A trimmed text does not begin with a blank. -/
theorem trim_head {text : List Char} {char : Char} (first : (trim text).head? = some char) :
    isBlank char = false := by
  have front := List.rdropWhile_prefix isBlank (text.dropWhile isBlank)
  have same : (text.dropWhile isBlank).head? = some char := by
    obtain ⟨rest, whole⟩ := front
    rw [← whole, List.head?_append, ← trim_eq, first]
    rfl
  have kept := List.head?_dropWhile_not isBlank text
  rw [same] at kept
  exact kept

/-- A trimmed text does not end with a blank. -/
theorem trim_last {text : List Char} {char : Char} (last : (trim text).getLast? = some char) :
    isBlank char = false := by
  have kept : trim text ≠ [] := by
    intro empty
    rw [empty] at last
    cases last
  have visible := List.rdropWhile_last_not isBlank (text.dropWhile isBlank) kept
  rw [List.getLast?_eq_some_getLast kept, Option.some.injEq] at last
  rw [← last]
  exact Bool.eq_false_iff.mpr visible

/-- What is left of a text without the blanks at its two ends. -/
structure Core (whole kept : List Char) : Prop where
  split : ∃ front back, whole = front ++ kept ++ back ∧ (∀ char ∈ front, isBlank char = true) ∧
    ∀ char ∈ back, isBlank char = true
  first : ∀ char, kept.head? = some char → isBlank char = false
  last : ∀ char, kept.getLast? = some char → isBlank char = false

/-- Trimming leaves what is between the blanks. -/
theorem trim_core (text : List Char) : Core text (trim text) := by
  refine ⟨⟨text.takeWhile isBlank, (text.dropWhile isBlank).rtakeWhile isBlank, ?_, ?_, ?_⟩,
    fun _ => trim_head, fun _ => trim_last⟩
  · rw [trim_eq, List.append_assoc, List.rdropWhile_append_rtakeWhile,
      List.takeWhile_append_dropWhile]
  · exact fun _ => List.mem_takeWhile_imp
  · exact fun _ => List.mem_rtakeWhile_imp

end Text

namespace Port

variable {σ : Type} [Port σ]

/-- A read that ends a line found a line feed or nothing. -/
theorem verdict_ends {found : ReadResult} {bytes : List UInt8}
    (judged : verdict found = .ends bytes) : bytes = [] ∨ bytes = [lineFeed] := by
  cases found with
  | byte byte =>
    by_cases last : byte = lineFeed <;> simp only [verdict, last, ↓reduceIte] at judged <;>
      cases judged
    exact .inr rfl
  | nothing =>
    cases judged
    exact .inl rfl
  | failed error =>
    by_cases interrupted : error.kind = .interrupted
    · simp [verdict, interrupted] at judged
    · by_cases silent : error.isSilence = true <;>
        simp [verdict, interrupted, silent] at judged
      exact .inl judged

/-- A read after which a line goes on did not find a line feed. -/
theorem verdict_continues {found : ReadResult} {bytes : List UInt8}
    (judged : verdict found = .continues bytes) : lineFeed ∉ bytes := by
  cases found with
  | byte byte =>
    by_cases last : byte = lineFeed <;> simp only [verdict, last, ↓reduceIte] at judged <;>
      cases judged
    intro inside
    exact last (List.mem_singleton.mp inside).symm
  | nothing => cases judged
  | failed error =>
    by_cases interrupted : error.kind = .interrupted
    · simp only [verdict, interrupted, ↓reduceIte, Verdict.continues.injEq] at judged
      rw [← judged]
      exact List.not_mem_nil
    · by_cases silent : error.isSilence = true <;>
        simp [verdict, interrupted, silent] at judged

/-- A line feed can only be the last byte of a line that is collected. -/
theorem collectLine_body {patience : Nat} {port : σ} {bytes : List UInt8}
    (collected : (collectLine patience port).1 = .ok bytes) :
    ∃ body, lineFeed ∉ body ∧ (bytes = body ∨ bytes = body ++ [lineFeed]) := by
  have ended {found : ReadResult} {bytes : List UInt8} (judged : verdict found = .ends bytes) :
      ∃ body, lineFeed ∉ body ∧ (bytes = body ∨ bytes = body ++ [lineFeed]) :=
    ⟨[], List.not_mem_nil, verdict_ends judged⟩
  induction patience generalizing port bytes with
  | zero =>
    rw [collectLine_zero] at collected
    cases judged : verdict (read port).1 <;> simp only [judged] at collected <;> cases collected
    · exact ended judged
    · exact ⟨_, verdict_continues judged, .inl rfl⟩
  | succ patience ih =>
    rw [collectLine_succ] at collected
    cases judged : verdict (read port).1 with
    | ends first =>
      simp only [judged] at collected
      cases collected
      exact ended judged
    | fails error =>
      simp only [judged] at collected
      cases collected
    | continues first =>
      simp only [judged] at collected
      rcases rest : (collectLine patience (read port).2).1 with error | later <;>
        rw [rest] at collected <;> cases collected
      obtain ⟨body, plain, shape⟩ := ih rest
      have free : lineFeed ∉ first ++ body := by
        rw [List.mem_append]
        rintro (early | late)
        · exact verdict_continues judged early
        · exact plain late
      refine ⟨first ++ body, free, ?_⟩
      rcases shape with rfl | rfl
      · exact .inl rfl
      · exact .inr (List.append_assoc _ _ _).symm

end Port

namespace Reply

open Text

/-- A line as it is read: it has no line feed and no blank at an end. -/
structure Trimmed (line : String) : Prop where
  noFeed : '\n' ∉ line.toList
  first : ∀ char, line.toList.head? = some char → isBlank char = false
  last : ∀ char, line.toList.getLast? = some char → isBlank char = false

/-- A line feed at the end of a line leaves no trace. -/
theorem decodeLine_feed (body : List UInt8) :
    decodeLine (body ++ [Port.lineFeed]) = decodeLine body := by
  have ascii : Port.lineFeed.toNat < 0x80 := by decide
  have decoded := Utf8.decodeLossy_concat_ascii body ascii
  unfold decodeLine
  rw [decoded, trim_concat_blank _ (by decide)]

/-- Bytes without a line feed decode to a trimmed line. -/
theorem decodeLine_trimmed {body : List UInt8} (plain : Port.lineFeed ∉ body) :
    Trimmed (decodeLine body) := by
  have same : (decodeLine body).toList = trim (Utf8.decodeLossy body) := String.toList_ofList
  refine ⟨?_, ?_, ?_⟩ <;> rw [same]
  · intro inside
    exact plain (Utf8.mem_of_mem_decodeLossy (mem_of_mem_trim inside) (by decide))
  · exact fun char first => trim_head first
  · exact fun char last => trim_last last

end Reply

/-- Every line that is read is trimmed. -/
theorem Port.readLine_trimmed {σ : Type} [Port σ] {port : σ} {line : String}
    (found : (Port.readLine port).1 = .ok line) : Reply.Trimmed line := by
  rw [readLine_eq] at found
  rcases outcome : (collectLine (patience port) port).1 with error | bytes <;>
    simp only [outcome] at found <;> cases found
  obtain ⟨body, plain, rfl | rfl⟩ := collectLine_body outcome
  · exact Reply.decodeLine_trimmed plain
  · rw [Reply.decodeLine_feed]
    exact Reply.decodeLine_trimmed plain

end CertConsole
