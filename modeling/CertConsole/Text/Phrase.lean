/-!
# Phrases

A console line is judged by the phrases that stand in it.
-/
namespace CertConsole.Text

/-- A phrase stands somewhere in a text. -/
def occurs (phrase : List Char) : List Char → Bool
  | [] => phrase.isEmpty
  | char :: rest => phrase.isPrefixOf (char :: rest) || occurs phrase rest

/-- A phrase occurs in a text exactly when it is a contiguous part of it. -/
theorem occurs_iff (phrase text : List Char) : occurs phrase text = true ↔ phrase <:+: text := by
  induction text with
  | nil => simp [occurs, List.isEmpty_iff]
  | cons char rest ih =>
    simp [occurs, List.isPrefixOf_iff_prefix, ih, List.infix_cons_iff]

/-- The phrase stands somewhere in the line, letter for letter. -/
def mentions (line phrase : String) : Bool := occurs phrase.toList line.toList

end CertConsole.Text
