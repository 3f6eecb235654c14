/-!
# Blank characters

The characters with the Unicode property White_Space, and the text between the blanks at its two
ends.
-/
namespace CertConsole.Text

/-- The White_Space property: 25 code points. The information separators U+001C to U+001F and the
zero-width characters do not have it. -/
def isBlank (char : Char) : Bool :=
  let code := char.toNat
  (0x9 ≤ code && code ≤ 0xD) || code == 0x20 || code == 0x85 || code == 0xA0 || code == 0x1680 ||
    (0x2000 ≤ code && code ≤ 0x200A) || code == 0x2028 || code == 0x2029 || code == 0x202F ||
    code == 0x205F || code == 0x3000

/-- A text without the blanks before its first and after its last other character. -/
def trim (text : List Char) : List Char :=
  ((text.dropWhile isBlank).reverse.dropWhile isBlank).reverse

end CertConsole.Text
