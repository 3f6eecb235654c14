/-!
# Lines

The lines of a text. A line feed ends a line, and a carriage return in front of it belongs to the
end of the line. What follows the last line feed is a line unless it is empty.
-/
namespace CertConsole.Text

/-- A line without the carriage return at its end. -/
def withoutReturn (line : List Char) : List Char :=
  if line.getLast? = some '\r' then line.dropLast else line

/-- The lines of a text. -/
def lines (text : String) : List String :=
  let pieces := text.toList.splitOnP (· == '\n')
  let last := pieces.getLast?.getD []
  ((pieces.dropLast.map withoutReturn) ++ (if last.isEmpty then [] else [last])).map String.ofList

end CertConsole.Text
