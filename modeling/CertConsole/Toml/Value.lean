/-!
# TOML values

The values of a TOML document. What a document may still say about a table depends on how the table
came about, so a table remembers it. Moments in time are kept as they were written: nothing here
calculates with them.
-/
namespace CertConsole.Toml

/-- How a table came about. -/
inductive TableKind where
  /-- It was written in braces. It is complete. -/
  | inline
  /-- A header named it. -/
  | header
  /-- A header named a table below it. -/
  | implied
  /-- A dotted key goes through it. -/
  | dotted
  deriving DecidableEq, Repr

/-- A table that no header has named yet. -/
def TableKind.isImplicit : TableKind → Bool
  | .implied | .dotted => true
  | .inline | .header => false

/-- A number with a point or an exponent, or what stands for one. -/
inductive Real where
  /-- The number `digits * 10 ^ exponent` with its sign. -/
  | decimal (negative : Bool) (digits : Nat) (exponent : Int)
  /-- An infinity with its sign. -/
  | infinity (negative : Bool)
  /-- No number. -/
  | notANumber
  deriving DecidableEq, Repr

/-- A TOML value. -/
inductive Value where
  | string (text : String)
  | integer (value : Int)
  | real (value : Real)
  | boolean (value : Bool)
  | dateTime (written : String)
  | array (items : List Value)
  | table (kind : TableKind) (entries : List (String × Value))
  /-- The tables that headers in double brackets add. -/
  | tables (elements : List (List (String × Value)))
  deriving Repr

/-- The entries of a table in the order in which their keys first appear. -/
abbrev Table := List (String × Value)

end CertConsole.Toml
