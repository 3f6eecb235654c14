import CertConsole.Proofs.Certificate
import Mathlib.Logic.ExistsUnique
import Mathlib.Logic.Relation

/-!
# The lines of a text

A text has line ends between neighbouring lines, and may have more of them ahead of the first line
and behind the last one (`LaidOut`). Every text is laid out in exactly one list of lines, and its
certificate has these lines (`reads_laid_out`). So neither the way in which a line ends nor a blank
line makes a difference (`Respelled`).
-/
namespace CertConsole.Certificate

/-- Characters that end lines, and no others. There may be none. -/
def LineEnds (gap : List Char) : Prop := ∀ char ∈ gap, char = '\r' ∨ char = '\n'

theorem LineEnds.nil : LineEnds [] := fun _ inside => absurd inside List.not_mem_nil

/-- A line is not empty, and nothing in it ends a line. -/
structure IsLine (line : String) : Prop where
  present : line ≠ ""
  noReturn : '\r' ∉ line.toList
  noFeed : '\n' ∉ line.toList

/-- How a text goes on behind a line: with line ends ahead of each further line, and with line ends
or nothing behind the last one. -/
inductive Behind : List String → List Char → Prop
  | last {gap : List Char} (ends : LineEnds gap) : Behind [] gap
  | next {gap rest : List Char} {line : String} {lines : List String} (ends : LineEnds gap)
    (apart : gap ≠ []) (proper : IsLine line) (later : Behind lines rest) :
    Behind (line :: lines) (gap ++ line.toList ++ rest)

/-- A text is laid out in lines: line ends or nothing, the first line, and what goes on behind it.
Without a line it is line ends or nothing. -/
inductive LaidOut : List String → List Char → Prop
  | blank {gap : List Char} (ends : LineEnds gap) : LaidOut [] gap
  | starts {gap rest : List Char} {line : String} {lines : List String} (ends : LineEnds gap)
    (proper : IsLine line) (later : Behind lines rest) :
    LaidOut (line :: lines) (gap ++ line.toList ++ rest)

/-- The three ways in which a line ends. -/
inductive LineEnding where
  /-- A line feed. -/
  | feed
  /-- A carriage return and a line feed. -/
  | both
  /-- A carriage return alone. -/
  | alone
  deriving DecidableEq, Repr

/-- How a line ending is written. -/
def LineEnding.text : LineEnding → String
  | feed => "\n"
  | both => "\r\n"
  | alone => "\r"

/-- One change of a text that leaves its lines alone. -/
inductive Respell : String → String → Prop
  /-- A line ending is written in another way. -/
  | convert (front back : String) (one other : LineEnding) :
    Respell (front ++ one.text ++ back) (front ++ other.text ++ back)
  /-- A blank line is added behind a line ending. -/
  | insert (front back : String) (one other : LineEnding) :
    Respell (front ++ one.text ++ back) (front ++ one.text ++ other.text ++ back)
  /-- A blank line is added ahead of the text. -/
  | ahead (text : String) (one : LineEnding) : Respell text (one.text ++ text)
  /-- The last line is ended. -/
  | ended (text : String) (one : LineEnding) : Respell text (text ++ one.text)

/-- Texts that come from one another by such changes and their reversals. -/
def Respelled : String → String → Prop := Relation.EqvGen Respell

/-- The lines of the certificate of some characters. -/
def linesIn (text : List Char) : List String :=
  ((text.splitOnP isLineEnd).filter (! ·.isEmpty)).map String.ofList

theorem ofText_lines (text : String) : (ofText text).lines = linesIn text.toList := rfl

theorem isLineEnd_iff (char : Char) : isLineEnd char = true ↔ char = '\r' ∨ char = '\n' := by
  simp [isLineEnd]

theorem linesIn_nil : linesIn [] = [] := by
  unfold linesIn
  rw [List.splitOnP_nil]
  rfl

/-- The lines around a line end are those before it and those behind it. -/
theorem linesIn_end {char : Char} (ending : char = '\r' ∨ char = '\n') (front back : List Char) :
    linesIn (front ++ char :: back) = linesIn front ++ linesIn back := by
  unfold linesIn
  rw [List.splitOnP_append_cons front back ((isLineEnd_iff char).mpr ending), List.filter_append,
    List.map_append]

/-- Line ends at the front of a text add no line. -/
theorem linesIn_ends {gap : List Char} (ends : LineEnds gap) (back : List Char) :
    linesIn (gap ++ back) = linesIn back := by
  induction gap with
  | nil => rfl
  | cons char gap ih =>
    have first := linesIn_end (ends char List.mem_cons_self) [] (gap ++ back)
    rw [List.nil_append, linesIn_nil, List.nil_append] at first
    rw [List.cons_append, first, ih fun other inside => ends other (List.mem_cons_of_mem _ inside)]

/-- The lines around a gap are those before it and those behind it. -/
theorem linesIn_gap {gap : List Char} (ends : LineEnds gap) (apart : gap ≠ [])
    (front back : List Char) : linesIn (front ++ gap ++ back) = linesIn front ++ linesIn back := by
  obtain ⟨char, rest, rfl⟩ := List.exists_cons_of_ne_nil apart
  rw [List.append_assoc, List.cons_append, linesIn_end (ends char List.mem_cons_self),
    linesIn_ends fun other inside => ends other (List.mem_cons_of_mem _ inside)]

/-- The characters of a line are that line. -/
theorem linesIn_line {line : String} (proper : IsLine line) : linesIn line.toList = [line] := by
  have whole : ∀ char ∈ line.toList, isLineEnd char = false := by
    intro char inside
    refine Bool.eq_false_iff.mpr fun ending => ?_
    rcases (isLineEnd_iff char).mp ending with rfl | rfl
    · exact proper.noReturn inside
    · exact proper.noFeed inside
  have visible : line.toList ≠ [] := fun empty => proper.present (String.toList_eq_nil_iff.mp empty)
  unfold linesIn
  rw [List.splitOnP_eq_singleton whole, List.filter_cons_of_pos (by simp [visible])]
  simp

/-- A text that starts with a line has this line and those behind it. -/
theorem Behind.linesIn_eq {lines : List String} {rest : List Char} (behind : Behind lines rest)
    {line : String} (proper : IsLine line) : linesIn (line.toList ++ rest) = line :: lines := by
  induction behind generalizing line with
  | @last gap ends =>
    by_cases present : gap = []
    · rw [present, List.append_nil, linesIn_line proper]
    · have closed := linesIn_gap ends present line.toList []
      rw [List.append_nil, linesIn_line proper, linesIn_nil] at closed
      exact closed
  | next ends apart follower later ih =>
    have parted := linesIn_gap ends apart line.toList
    rw [List.append_assoc, ← List.append_assoc, parted, linesIn_line proper, ih follower]
    rfl

/-- A text has the lines that it is laid out in. -/
theorem LaidOut.linesIn_eq {lines : List String} {text : List Char} (laidOut : LaidOut lines text) :
    linesIn text = lines := by
  cases laidOut with
  | blank ends =>
    have empty := linesIn_ends ends []
    rwa [List.append_nil, linesIn_nil] at empty
  | starts ends proper later =>
    rw [List.append_assoc, linesIn_ends ends]
    exact later.linesIn_eq proper

/-- A character that ends no line is a line, and makes a longer one of a line behind it. -/
theorem isLine_cons {char : Char} (inner : ¬(char = '\r' ∨ char = '\n')) {rest : List Char}
    (noReturn : '\r' ∉ rest) (noFeed : '\n' ∉ rest) : IsLine (String.ofList (char :: rest)) := by
  obtain ⟨notReturn, notFeed⟩ := not_or.mp inner
  refine ⟨?_, ?_, ?_⟩
  · intro empty
    rw [← String.toList_eq_nil_iff, String.toList_ofList] at empty
    cases empty
  · rw [String.toList_ofList]
    exact List.not_mem_cons_of_ne_of_not_mem (Ne.symm notReturn) noReturn
  · rw [String.toList_ofList]
    exact List.not_mem_cons_of_ne_of_not_mem (Ne.symm notFeed) noFeed

/-- Every text is laid out in some lines. -/
theorem exists_laidOut (text : List Char) : ∃ lines, LaidOut lines text := by
  induction text with
  | nil => exact ⟨[], .blank .nil⟩
  | cons char text ih =>
    obtain ⟨lines, laidOut⟩ := ih
    have extended {gap : List Char} (ends : LineEnds gap) (ending : char = '\r' ∨ char = '\n') :
        LineEnds (char :: gap) := by
      intro other inside
      rcases List.mem_cons.mp inside with rfl | later
      · exact ending
      · exact ends other later
    have alone (inner : ¬(char = '\r' ∨ char = '\n')) : IsLine (String.ofList [char]) :=
      isLine_cons inner List.not_mem_nil List.not_mem_nil
    by_cases ending : char = '\r' ∨ char = '\n'
    · cases laidOut with
      | blank ends => exact ⟨[], .blank (extended ends ending)⟩
      | starts ends proper later => exact ⟨_, .starts (extended ends ending) proper later⟩
    · -- The character begins the first line, or is a line ahead of it.
      cases laidOut with
      | blank ends =>
        have started : LaidOut _ _ := .starts .nil (alone ending) (.last ends)
        rw [String.toList_ofList] at started
        exact ⟨_, started⟩
      | @starts gap rest line lines ends proper later =>
        cases gap with
        | nil =>
          have longer := isLine_cons ending proper.noReturn proper.noFeed
          have started : LaidOut _ _ := .starts .nil longer later
          rw [String.toList_ofList] at started
          exact ⟨_, started⟩
        | cons first gap =>
          have apart : first :: gap ≠ [] := List.cons_ne_nil _ _
          have started : LaidOut _ _ :=
            .starts .nil (alone ending) (.next ends apart proper later)
          rw [String.toList_ofList] at started
          exact ⟨_, started⟩

/-- A text is laid out in its lines and in no others. -/
theorem laidOut_iff {lines : List String} {text : List Char} :
    LaidOut lines text ↔ linesIn text = lines := by
  constructor
  · exact LaidOut.linesIn_eq
  · rintro rfl
    obtain ⟨lines, laidOut⟩ := exists_laidOut text
    rw [laidOut.linesIn_eq]
    exact laidOut

/-- The certificate of a text has its lines. -/
theorem ofText_eq {text : String} {lines : List String} (read : linesIn text.toList = lines) :
    ofText text = ⟨lines⟩ := congrArg Certificate.mk read

/-- Lines that stand behind another one are lines. -/
theorem Behind.isLine {lines : List String} {rest : List Char} (behind : Behind lines rest) :
    ∀ line ∈ lines, IsLine line := by
  induction behind with
  | last ends => exact nofun
  | next ends apart proper later ih =>
    intro line inside
    rcases List.mem_cons.mp inside with rfl | further
    · exact proper
    · exact ih line further

/-- The lines of a certificate are lines. -/
theorem ofText_isLine (text : String) : ∀ line ∈ (ofText text).lines, IsLine line := by
  have laidOut : LaidOut (ofText text).lines text.toList := laidOut_iff.mpr rfl
  generalize (ofText text).lines = lines at laidOut
  generalize text.toList = chars at laidOut
  cases laidOut with
  | blank ends => exact nofun
  | starts ends proper later =>
    intro line inside
    rcases List.mem_cons.mp inside with rfl | further
    · exact proper
    · exact later.isLine line further

/-- A line ending is line ends, and at least one. -/
theorem LineEnding.ends (ending : LineEnding) :
    LineEnds ending.text.toList ∧ ending.text.toList ≠ [] := by
  cases ending <;> simp [LineEnds, text]

/-- A change of line endings or blank lines leaves the lines alone. -/
theorem Respell.linesIn_eq {text other : String} (respell : Respell text other) :
    linesIn text.toList = linesIn other.toList := by
  cases respell with
  | convert front back one another =>
    simp only [String.toList_append]
    rw [linesIn_gap one.ends.1 one.ends.2, linesIn_gap another.ends.1 another.ends.2]
  | insert front back one another =>
    simp only [String.toList_append]
    rw [linesIn_gap one.ends.1 one.ends.2, List.append_assoc, linesIn_gap one.ends.1 one.ends.2,
      linesIn_ends another.ends.1]
  | ahead text one =>
    rw [String.toList_append, linesIn_ends one.ends.1]
  | ended text one =>
    have closed := linesIn_gap one.ends.1 one.ends.2 text.toList []
    rw [List.append_nil, linesIn_nil, List.append_nil] at closed
    rw [String.toList_append, closed]

/-- Texts that differ in line endings and blank lines have one certificate. -/
theorem Respelled.ofText_eq {text other : String} (respelled : Respelled text other) :
    ofText text = ofText other := by
  induction respelled with
  | rel text other respell => exact congrArg Certificate.mk respell.linesIn_eq
  | refl text => rfl
  | symm text other _ ih => exact ih.symm
  | trans text middle other _ _ first second => exact first.trans second

/-- The content of a text: all characters that end no line. -/
def content (text : List Char) : List Char :=
  text.filter fun char => char ≠ '\r' ∧ char ≠ '\n'

theorem content_append (front back : List Char) :
    content (front ++ back) = content front ++ content back :=
  List.filter_append front back

/-- Line ends have no content. -/
theorem LineEnds.content {gap : List Char} (ends : LineEnds gap) : content gap = [] := by
  refine List.filter_eq_nil_iff.mpr fun char inside => ?_
  rcases ends char inside with rfl | rfl <;> decide

/-- A line is all content. -/
theorem IsLine.content {line : String} (proper : IsLine line) :
    content line.toList = line.toList := by
  refine List.filter_eq_self.mpr fun char inside => decide_eq_true ⟨?_, ?_⟩
  · rintro rfl
    exact proper.noReturn inside
  · rintro rfl
    exact proper.noFeed inside

/-- The content behind a line is that of the lines there. -/
theorem Behind.content {lines : List String} {rest : List Char} (behind : Behind lines rest) :
    lines.flatMap String.toList = content rest := by
  induction behind with
  | last ends => rw [ends.content]; rfl
  | next ends apart proper later ih =>
    rw [List.flatMap_cons, ih, content_append, content_append, ends.content, proper.content,
      List.nil_append]

/-- The content of a text is that of its lines. -/
theorem LaidOut.content {lines : List String} {text : List Char} (laidOut : LaidOut lines text) :
    lines.flatMap String.toList = content text := by
  cases laidOut with
  | blank ends => rw [ends.content]; rfl
  | starts ends proper later =>
    rw [List.flatMap_cons, later.content, content_append, content_append, ends.content,
      proper.content, List.nil_append]

/-- **The certificate of a text has the lines that the text is laid out in.** There is exactly one
list of lines with line ends between neighbours, and with line ends or nothing around them, that
makes up a text, and it is the list of the lines of its certificate. So a line feed between two
texts puts their lines behind one another, neither the way in which lines end nor blank lines make a
difference, and the lines on end are the text without its line ends and with nothing else
changed. -/
theorem reads_laid_out (text : String) :
    (∀ lines, LaidOut lines text.toList ↔ (ofText text).lines = lines) ∧
    (∃! lines, LaidOut lines text.toList) ∧
    (∀ other, (ofText (text ++ "\n" ++ other)).lines =
      (ofText text).lines ++ (ofText other).lines) ∧
    (∀ other, Respelled text other → ofText text = ofText other) ∧
    (ofText text).lines.flatMap String.toList =
      text.toList.filter fun char => char ≠ '\r' ∧ char ≠ '\n' := by
  refine ⟨fun lines => laidOut_iff, ?_, ?_, fun other respelled => respelled.ofText_eq, ?_⟩
  · refine ⟨(ofText text).lines, laidOut_iff.mpr rfl, ?_⟩
    intro lines laidOut
    exact laidOut.linesIn_eq.symm
  · intro other
    have feed : LineEnding.feed.text.toList = ['\n'] := by decide
    simp only [ofText_lines, String.toList_append]
    exact linesIn_gap LineEnding.feed.ends.1 LineEnding.feed.ends.2 text.toList other.toList
  · exact (laidOut_iff.mpr rfl).content

/-- A text with all three line endings and blank lines among them, and the same lines with one line
feed between them and a carriage return at the end. -/
theorem reads_laid_out_mixed :
    let text := "\na \r\n\r b"
    let other := "a \n b\r"
    Respelled text other ∧ ofText text = ofText other ∧ LaidOut ["a ", " b"] other.toList := by
  intro text other
  have shorter : Respell "a \r\n\r b" text := .ahead "a \r\n\r b" .feed
  have packed : Respell "a \r\n b" "a \r\n\r b" := .insert "a " " b" .both .alone
  have converted : Respell "a \r\n b" "a \n b" := .convert "a " " b" .both .feed
  have ended : Respell "a \n b" other := .ended "a \n b" .alone
  have respelled : Respelled text other :=
    ((Relation.EqvGen.rel _ _ shorter).symm.trans _ _ _ (.symm _ _ (.rel _ _ packed))).trans _ _ _
      ((Relation.EqvGen.rel _ _ converted).trans _ _ _ (.rel _ _ ended))
  obtain ⟨reads, -, -, alike, -⟩ := reads_laid_out text
  have same := alike other respelled
  refine ⟨respelled, same, ?_⟩
  have lines : (ofText other).lines = ["a ", " b"] := by decide +kernel
  exact ((reads_laid_out other).1 _).mpr lines

end CertConsole.Certificate
