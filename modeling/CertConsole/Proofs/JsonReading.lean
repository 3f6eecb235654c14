import CertConsole.Text.Json

/-!
# Reading JSON

A reader for the JSON values that a report is written with: logical values, natural numbers, texts
and objects, with blanks wherever a document may have them. Its law is that what is written is read
back, whatever follows (`reads`), so a text that was written is one document and no other
(`read_render`).
-/
namespace CertConsole.Json

/-- A blank that may stand between the parts of a document. -/
def isSpace (char : Char) : Bool :=
  char == ' ' || char == '\n' || char == '\t' || char == '\r'

/-- The text behind the blanks at its front. -/
def pastSpace (text : List Char) : List Char := text.dropWhile isSpace

/-- The value of a hexadecimal digit. -/
def hexDigit? (char : Char) : Option Nat :=
  if '0' ≤ char ∧ char ≤ '9' then some (char.toNat - '0'.toNat)
  else if 'a' ≤ char ∧ char ≤ 'f' then some (char.toNat - 'a'.toNat + 10)
  else if 'A' ≤ char ∧ char ≤ 'F' then some (char.toNat - 'A'.toNat + 10)
  else none

/-- The character with a code of four hexadecimal digits. -/
def coded? (first second third fourth : Char) : Option Char := do
  let code := (← hexDigit? first) * 4096 + (← hexDigit? second) * 256 +
    (← hexDigit? third) * 16 + (← hexDigit? fourth)
  return Char.ofNat code

/-- The character that a sign behind a backslash stands for. -/
def escaped? (sign : Char) : Option Char :=
  [('"', '"'), ('\\', '\\'), ('/', '/'), ('b', '\x08'), ('t', '\t'), ('n', '\n'), ('f', '\x0C'),
    ('r', '\r')].lookup sign

/-- Put a character in front of what was read. -/
def onto (char : Char) (read : List Char × List Char) : List Char × List Char :=
  (char :: read.1, read.2)

/-- The characters up to the closing quote, and the text behind it. -/
def readQuoted : List Char → Option (List Char × List Char)
  | [] => none
  | char :: rest =>
    if char = '"' then some ([], rest)
    else if char = '\\' then
      match rest with
      | 'u' :: first :: second :: third :: fourth :: behind => do
        return onto (← coded? first second third fourth) (← readQuoted behind)
      | sign :: behind => do
        return onto (← escaped? sign) (← readQuoted behind)
      | [] => none
    else if char < ' ' then none
    else (readQuoted rest).map (onto char)

/-- A text in quotes with a colon behind it. -/
def readName (text : List Char) : Option (String × List Char) :=
  match pastSpace text with
  | '"' :: rest => do
    let (name, behind) ← readQuoted rest
    match pastSpace behind with
    | ':' :: value => return (String.ofList name, value)
    | _ => none
  | _ => none

/-- A word that stands for a value. -/
def readWord (word : String) (value : Json) (text : List Char) : Option (Json × List Char) :=
  if word.toList.isPrefixOf text then some (value, text.drop word.toList.length) else none

/-- A natural number. -/
def readNumber (text : List Char) : Option (Json × List Char) :=
  match text.takeWhile Char.isDigit with
  | [] => none
  | digits => some (.number (Nat.ofDigitChars 10 digits 0), text.dropWhile Char.isDigit)

mutual

/-- A value from the front of a text, if it is made of no more parts than it may be. -/
def readValue : Nat → List Char → Option (Json × List Char)
  | 0, _ => none
  | parts + 1, text =>
    match pastSpace text with
    | [] => none
    | char :: rest =>
      if char = '"' then
        (readQuoted rest).map fun (content, behind) => (.string (String.ofList content), behind)
      else if char = '\x7b' then
        match pastSpace rest with
        | '\x7d' :: behind => some (.object [], behind)
        | _ => (readMembers parts rest).map fun (members, behind) => (.object members, behind)
      else if char = 't' then readWord "true" (.boolean true) (char :: rest)
      else if char = 'f' then readWord "false" (.boolean false) (char :: rest)
      else readNumber (char :: rest)

/-- The members of an object up to the closing brace. -/
def readMembers : Nat → List Char → Option (List (String × Json) × List Char)
  | 0, _ => none
  | parts + 1, text => do
    let (name, behind) ← readName text
    let (value, behind) ← readValue parts behind
    match pastSpace behind with
    | ',' :: rest => do
      let (members, last) ← readMembers parts rest
      return ((name, value) :: members, last)
    | '\x7d' :: last => return ([(name, value)], last)
    | _ => none

end

/-- The value that a whole text is a document of. -/
def read? (text : String) : Option Json :=
  match readValue (text.length + 1) text.toList with
  | some (value, behind) => if behind.all isSpace then some value else none
  | none => none

/-! ## Blanks and names -/

/-- Blanks in front of a text are passed. -/
theorem pastSpace_append {spaces : List Char} (blank : ∀ char ∈ spaces, isSpace char = true)
    (text : List Char) : pastSpace (spaces ++ text) = pastSpace text := by
  unfold pastSpace
  rw [List.dropWhile_append_of_pos blank]

/-- A text that begins with another character stays as it is. -/
theorem pastSpace_cons {char : Char} (solid : isSpace char = false) (rest : List Char) :
    pastSpace (char :: rest) = char :: rest := by
  unfold pastSpace
  rw [List.dropWhile_cons_of_neg (by rw [solid]; decide)]

/-- The start of a line is blank. -/
theorem pastSpace_indent (level : Nat) (text : List Char) :
    pastSpace ((indent level).toList ++ text) = pastSpace text := by
  refine pastSpace_append (fun char inside => ?_) text
  rw [indent, String.toList_append] at inside
  rcases List.mem_append.mp inside with first | later
  · have feed : char = '\n' := List.mem_singleton.mp first
    rw [feed]
    rfl
  · rw [String.toList_ofList] at later
    rw [List.eq_of_mem_replicate later]
    rfl

/-! ## Quoted texts -/

/-- The digit of a number below sixteen is read as that number. -/
theorem hexDigit_digitChar {value : Nat} (small : value < 16) :
    hexDigit? value.digitChar = some value := by
  have all : ∀ value < 16, hexDigit? value.digitChar = some value := by decide
  exact all value small

/-- A control character is read from its code. -/
theorem coded_control {char : Char} (control : char < ' ') :
    coded? '0' '0' (char.toNat / 16).digitChar (char.toNat % 16).digitChar = some char := by
  have low : char.toNat < 32 := control
  have upper : hexDigit? (char.toNat / 16).digitChar = some (char.toNat / 16) :=
    hexDigit_digitChar (by omega)
  have lower : hexDigit? (char.toNat % 16).digitChar = some (char.toNat % 16) :=
    hexDigit_digitChar (by omega)
  have zero : hexDigit? '0' = some 0 := rfl
  have code : 0 * 4096 + 0 * 256 + char.toNat / 16 * 16 + char.toNat % 16 = char.toNat := by omega
  unfold coded?
  rw [zero, upper, lower]
  change some (Char.ofNat _) = some char
  rw [code, Char.ofNat_toNat]

/-- A sign behind a backslash is read as the character that it stands for. -/
theorem readQuoted_sign {sign char : Char} (stands : escaped? sign = some char)
    (rest : List Char) :
    readQuoted ('\\' :: sign :: rest) = (readQuoted rest).map (onto char) := by
  have notCode : sign ≠ 'u' := fun same => by
    rw [same] at stands
    cases stands
  cases behind : readQuoted rest <;> simp [readQuoted, notCode, stands, behind]

/-- A code behind a backslash is read as the character that has it. -/
theorem readQuoted_code {first second third fourth char : Char}
    (stands : coded? first second third fourth = some char) (rest : List Char) :
    readQuoted ('\\' :: 'u' :: first :: second :: third :: fourth :: rest) =
      (readQuoted rest).map (onto char) := by
  cases behind : readQuoted rest <;> simp [readQuoted, stands, behind]

/-- A character that was quoted is read back, whatever follows. -/
theorem readQuoted_escapeChar (char : Char) (rest : List Char) :
    readQuoted (escapeChar char ++ rest) = (readQuoted rest).map (onto char) := by
  unfold escapeChar
  split
  case h_8 notQuote notSlash _ _ _ _ _ =>
    split
    case isTrue control => exact readQuoted_code (coded_control control) rest
    case isFalse plain =>
      change readQuoted (char :: rest) = _
      rw [readQuoted.eq_def]
      simp only [if_neg notQuote, if_neg notSlash, if_neg plain]
  all_goals exact readQuoted_sign rfl rest

/-- A text that was quoted is read back up to its end, whatever follows. -/
theorem readQuoted_quoted (text rest : List Char) :
    readQuoted (text.flatMap escapeChar ++ '"' :: rest) = some (text, rest) := by
  induction text with
  | nil =>
    change readQuoted ('"' :: rest) = _
    rw [readQuoted.eq_def]
    rfl
  | cons char text read =>
    rw [List.flatMap_cons, List.append_assoc, readQuoted_escapeChar, read]
    rfl

/-- A name that was written is read back with its colon, whatever follows. -/
theorem readName_quote (name : String) (level : Nat) (rest : List Char) :
    readName ((indent level).toList ++ (quote name).toList ++ ':' :: rest) =
      some (name, rest) := by
  have text : (quote name).toList ++ ':' :: rest =
      '"' :: (name.toList.flatMap escapeChar ++ '"' :: ':' :: rest) := by
    simp [quote, String.toList_ofList]
  rw [List.append_assoc, text]
  unfold readName
  rw [pastSpace_indent, pastSpace_cons rfl]
  simp only [readQuoted_quoted]
  change some (String.ofList name.toList, rest) = _
  rw [String.ofList_toList]

/-! ## Numbers and words -/

/-- A text that no number goes on in. -/
def Apart (text : List Char) : Prop := ∀ char ∈ text.head?, char.isDigit = false

/-- Digits are taken up to a text that no number goes on in. -/
theorem takeWhile_digits {digits rest : List Char} (all : ∀ char ∈ digits, char.isDigit = true)
    (apart : Apart rest) :
    (digits ++ rest).takeWhile Char.isDigit = digits ∧
      (digits ++ rest).dropWhile Char.isDigit = rest := by
  rw [List.takeWhile_append_of_pos all, List.dropWhile_append_of_pos all]
  cases rest with
  | nil => exact ⟨List.append_nil _, rfl⟩
  | cons char rest =>
    have other : char.isDigit = false := apart char rfl
    rw [List.takeWhile_cons_of_neg (by rw [other]; decide),
      List.dropWhile_cons_of_neg (by rw [other]; decide), List.append_nil]
    exact ⟨rfl, rfl⟩

/-- A number is written with digits that are read as it. -/
theorem toString_digits (number : Nat) :
    ∃ first others, (toString number).toList = first :: others ∧
      (∀ char ∈ first :: others, char.isDigit = true) ∧
      Nat.ofDigitChars 10 (first :: others) 0 = number := by
  have digits : (toString number).toList = Nat.toDigits 10 number := Nat.toList_repr
  cases shape : Nat.toDigits 10 number with
  | nil => exact absurd shape Nat.toDigits_ne_nil
  | cons first others =>
    refine ⟨first, others, digits.trans shape, fun char inside => ?_, ?_⟩
    · rw [← shape] at inside
      exact Nat.isDigit_of_mem_toDigits (by decide) (by decide) inside
    · rw [← shape, Nat.ofDigitChars_ten_toDigits]

/-- A number that was written is read back where no number goes on behind it. -/
theorem readNumber_toString (number : Nat) {rest : List Char} (apart : Apart rest) :
    readNumber ((toString number).toList ++ rest) = some (.number number, rest) := by
  obtain ⟨first, others, shape, all, value⟩ := toString_digits number
  obtain ⟨taken, left⟩ := takeWhile_digits all apart
  unfold readNumber
  rw [shape, taken, left]
  change some (Json.number (Nat.ofDigitChars 10 (first :: others) 0), rest) = _
  rw [value]

/-- A word is read back, whatever follows. -/
theorem readWord_append (word : String) (value : Json) (rest : List Char) :
    readWord word value (word.toList ++ rest) = some (value, rest) := by
  unfold readWord
  rw [if_pos (List.isPrefixOf_iff_prefix.mpr (List.prefix_append _ _)), List.drop_left]

/-! ## Values -/

/-- A text in quotes is read back, whatever follows. -/
theorem readValue_quote (parts : Nat) (text : String) (rest : List Char) :
    readValue (parts + 1) ((quote text).toList ++ rest) = some (.string text, rest) := by
  have shape : (quote text).toList ++ rest =
      '"' :: (text.toList.flatMap escapeChar ++ '"' :: rest) := by
    simp [quote, String.toList_ofList]
  rw [shape, readValue, pastSpace_cons rfl]
  simp only [if_pos, readQuoted_quoted, Option.map_some, String.ofList_toList]

/-- A number is read back where no number goes on behind it. -/
theorem readValue_toString (parts number : Nat) {rest : List Char} (apart : Apart rest) :
    readValue (parts + 1) ((toString number).toList ++ rest) = some (.number number, rest) := by
  have read := readNumber_toString number apart
  obtain ⟨first, others, shape, all, -⟩ := toString_digits number
  have other : ∀ char : Char, char.isDigit = false → first ≠ char := by
    intro char plain same
    rw [← same, all first List.mem_cons_self] at plain
    cases plain
  have solid : isSpace first = false := by
    simp [isSpace, other]
  rw [shape, List.cons_append] at read ⊢
  rw [readValue, pastSpace_cons solid]
  simp only [if_neg (other '"' rfl), if_neg (other '\x7b' rfl), if_neg (other 't' rfl),
    if_neg (other 'f' rfl), read]

/-- A truth value is read back, whatever follows. -/
theorem readValue_boolean (parts : Nat) (value : Bool) (rest : List Char) :
    readValue (parts + 1) ((if value then "true" else "false" : String).toList ++ rest) =
      some (.boolean value, rest) := by
  cases value with
  | true => exact readWord_append "true" (.boolean true) rest
  | false => exact readWord_append "false" (.boolean false) rest

/-- An object that closes at once has no members. -/
theorem readValue_empty (parts : Nat) (rest : List Char) :
    readValue (parts + 1) ("\x7b\x7d".toList ++ rest) = some (.object [], rest) := by
  have braces : "\x7b\x7d".toList = ['\x7b', '\x7d'] := rfl
  rw [braces, List.cons_append, readValue, pastSpace_cons rfl]
  rfl

/-- No members are read where an object closes. -/
theorem readMembers_brace {parts : Nat} {rest last : List Char}
    (closed : pastSpace rest = '\x7d' :: last) {members : List (String × Json)}
    {behind : List Char} : readMembers parts rest ≠ some (members, behind) := by
  intro read
  cases parts with
  | zero => cases read
  | succ parts =>
    have noName : readName rest = none := by
      rw [readName, closed]
      rfl
    rw [readMembers, noName] at read
    cases read

/-- An object is read as the members behind its brace, where one stands there. -/
theorem readValue_object {parts : Nat} {rest : List Char} {members : List (String × Json)}
    {behind : List Char} (read : readMembers parts rest = some (members, behind)) :
    readValue (parts + 1) ('\x7b' :: rest) = some (.object members, behind) := by
  rw [readValue, pastSpace_cons rfl]
  simp only [if_neg (show '\x7b' ≠ '"' by decide), if_pos]
  split
  case h_1 empty =>
    -- A closing brace is no name, so no member was read here.
    exact absurd read (readMembers_brace empty)
  case h_2 => rw [read, Option.map_some]

/-- A member on a line of its own. -/
def memberAt (level : Nat) (name : String) (value : Json) : String :=
  indent level ++ quote name ++ ": " ++ renderAt level value

/-- An object with members has the first one behind the brace. -/
theorem renderAt_object (level : Nat) (name : String) (value : Json)
    (rest : List (String × Json)) :
    renderAt level (.object ((name, value) :: rest)) =
      "\x7b" ++ (memberAt (level + 1) name value ++ renderRest (level + 1) rest) ++
        indent level ++ "\x7d" := by
  rw [renderAt, memberAt]
  simp only [String.append_assoc]

/-- A further member stands behind a comma. -/
theorem renderRest_cons (level : Nat) (name : String) (value : Json)
    (rest : List (String × Json)) :
    renderRest level ((name, value) :: rest) =
      "," ++ (memberAt level name value ++ renderRest level rest) := by
  rw [renderRest, memberAt]
  simp only [String.append_assoc]

/-- With so many parts a value is read back if its text is shorter. -/
def ReadsValues (parts : Nat) : Prop :=
  ∀ value level rest, (renderAt level value).length < parts → Apart rest →
    readValue parts ((renderAt level value).toList ++ rest) = some (value, rest)

/-- With so many parts members are read back up to the closing brace if their text is shorter. -/
def ReadsMembers (parts : Nat) : Prop :=
  ∀ name value members level outer rest,
    (memberAt level name value ++ renderRest level members).length < parts →
    readMembers parts ((memberAt level name value ++ renderRest level members).toList ++
      ((indent outer).toList ++ '\x7d' :: rest)) = some ((name, value) :: members, rest)

/-- An object with members takes one part more than they do. -/
theorem readValue_members {parts : Nat} (members : ReadsMembers parts) (name : String)
    (value : Json) (others : List (String × Json)) (level : Nat) (rest : List Char)
    (enough : (renderAt level (.object ((name, value) :: others))).length < parts + 1) :
    readValue (parts + 1) ((renderAt level (.object ((name, value) :: others))).toList ++ rest) =
      some (.object ((name, value) :: others), rest) := by
  have shape := renderAt_object level name value others
  have shorter : (memberAt (level + 1) name value ++ renderRest (level + 1) others).length <
      parts := by
    have brace : ("\x7b" : String).length = 1 := rfl
    rw [shape, String.length_append, String.length_append, String.length_append, brace] at enough
    omega
  have read := members name value others (level + 1) level rest shorter
  have opening : ("\x7b" : String).toList = ['\x7b'] := rfl
  have closing : ("\x7d" : String).toList = ['\x7d'] := rfl
  rw [shape, String.toList_append, String.toList_append, String.toList_append, opening, closing,
    List.append_assoc, List.append_assoc, List.append_assoc, List.singleton_append,
    List.singleton_append]
  exact readValue_object read

/-- A value takes one part more than its members. -/
theorem readsValues_succ {parts : Nat} (members : ReadsMembers parts) :
    ReadsValues (parts + 1) := by
  intro value level rest enough apart
  cases value with
  | boolean value =>
    rw [renderAt]
    exact readValue_boolean parts value rest
  | number number =>
    rw [renderAt]
    exact readValue_toString parts number apart
  | string text =>
    rw [renderAt]
    exact readValue_quote parts text rest
  | object list =>
    cases list with
    | nil =>
      rw [renderAt]
      exact readValue_empty parts rest
    | cons member others =>
      exact readValue_members members member.1 member.2 others level rest enough

/-- The text behind the value of a member is apart from it. -/
theorem apart_behind (members : List (String × Json)) (level outer : Nat) (rest : List Char) :
    Apart ((renderRest level members).toList ++ ((indent outer).toList ++ rest)) := by
  intro char first
  cases members with
  | nil =>
    rw [renderRest, indent, String.toList_append] at first
    cases first
    rfl
  | cons member members =>
    rw [renderRest_cons, String.toList_append] at first
    cases first
    rfl

/-- A blank in front of a value is passed. -/
theorem readValue_space (parts : Nat) (text : List Char) :
    readValue parts (' ' :: text) = readValue parts text := by
  cases parts with
  | zero => rw [readValue, readValue]
  | succ parts =>
    have passed : pastSpace (' ' :: text) = pastSpace text := List.dropWhile_cons_of_pos rfl
    rw [readValue, readValue, passed]

/-- Members take one part more than their values and the members behind them. -/
theorem readsMembers_succ {parts : Nat} (values : ReadsValues parts)
    (members : ReadsMembers parts) : ReadsMembers (parts + 1) := by
  intro name value others level outer rest enough
  have behind := apart_behind others level outer ('\x7d' :: rest)
  have colon : (": " : String).toList = [':', ' '] := rfl
  have shape : (memberAt level name value ++ renderRest level others).toList ++
      ((indent outer).toList ++ '\x7d' :: rest) =
    (indent level).toList ++ (quote name).toList ++ ':' :: (' ' :: ((renderAt level value).toList
      ++ ((renderRest level others).toList ++ ((indent outer).toList ++ '\x7d' :: rest)))) := by
    simp [memberAt, String.toList_append, colon]
  have spaced : (": " : String).length = 2 := rfl
  rw [String.length_append, memberAt, String.length_append, String.length_append, spaced] at enough
  have read := values value level _ (by omega) behind
  rw [shape, readMembers, readName_quote]
  simp only [Option.bind_eq_bind, Option.bind_some, readValue_space, read]
  cases others with
  | nil =>
    have last : (renderRest level []).toList ++ ((indent outer).toList ++ '\x7d' :: rest) =
        (indent outer).toList ++ '\x7d' :: rest := by
      rw [renderRest]
      rfl
    rw [last, pastSpace_indent, pastSpace_cons rfl]
    rfl
  | cons member others =>
    have comma : ("," : String).toList = [','] := rfl
    rw [renderRest_cons] at enough
    simp only [String.length_append] at enough
    have more := members member.1 member.2 others level outer rest
      (by rw [String.length_append]; omega)
    rw [renderRest_cons, String.toList_append, comma, List.append_assoc, List.singleton_append,
      pastSpace_cons rfl]
    simp only [more, Option.bind_some]
    rfl

/-- What was written is read back with more parts than it has characters. -/
theorem reads (parts : Nat) : ReadsValues parts ∧ ReadsMembers parts := by
  induction parts with
  | zero =>
    constructor
    · intro value level rest enough
      exact absurd enough (Nat.not_lt_zero _)
    · intro name value members level outer rest enough
      exact absurd enough (Nat.not_lt_zero _)
  | succ parts read => exact ⟨readsValues_succ read.2, readsMembers_succ read.1 read.2⟩

/-- **What was written is one document: it is read back as the value that it was written for.** -/
theorem read_render (value : Json) : read? (render value ++ "\n") = some value := by
  have feed : ("\n" : String).toList = ['\n'] := rfl
  have apart : Apart ['\n'] := by
    intro char first
    cases first
    rfl
  have enough : (renderAt 0 value).length < (renderAt 0 value ++ "\n").length + 1 := by
    rw [String.length_append]
    omega
  have read := (reads _).1 value 0 ['\n'] enough apart
  rw [read?, render, String.toList_append, feed, read]
  rfl

end CertConsole.Json
