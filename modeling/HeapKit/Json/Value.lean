/-!
# Documents

Requests arrive and answers leave as JSON documents. A document is a tree of
nulls, booleans, numbers, strings, arrays and objects.

Two choices matter for what a reader sees. Numbers are kept exactly, as an
integer mantissa and a decimal exponent, because integers of the full 64-bit
range and floats written by their shortest digits both pass through them; a
number read from a document also keeps the characters it was written with, for
the fields that take a number as text. And
an object keeps its fields as an ordered list; when a name occurs twice the
later field is the one read, as a reader that fills a dictionary would do.
-/

namespace HeapKit

/-- A number as a document writes it: the value `mantissa × 10 ^ exponent`, and
whether it was written as a plain integer (no point and no exponent mark). A
reader of a typed field decides what it accepts; a writer decides which of the
two textual shapes to use. -/
structure Numeral where
  mantissa : Int
  exponent : Int
  integer : Bool
  /-- The characters the number is spelled with: those of the document it was
  read from, or the decimal digits of an integer made by `ofInt`; empty for any
  other number the program made. -/
  written : String := ""
  deriving DecidableEq, Repr, Inhabited

namespace Numeral

/-- The numeral of an integer, written plainly. -/
def ofInt (value : Int) : Numeral :=
  { mantissa := value, exponent := 0, integer := true, written := toString value }

/-- Whether a numeral is negative; a zero written with a minus sign is. -/
def isNegative (numeral : Numeral) : Bool :=
  numeral.mantissa < 0 || numeral.written.startsWith "-"

/-- The integer a numeral stands for, when it was written as one. A numeral that
carries a point or an exponent is no integer here, whatever its value. -/
def toInt? (numeral : Numeral) : Option Int :=
  if numeral.integer && numeral.exponent == 0 then some numeral.mantissa else none

end Numeral

/-- A document. -/
inductive Json where
  | null
  | bool (value : Bool)
  | number (value : Numeral)
  | string (value : String)
  | array (items : List Json)
  | object (fields : List (String × Json))
  deriving Repr, Inhabited

namespace Json

/-- The integer `value` as a document. -/
def int (value : Int) : Json := .number (Numeral.ofInt value)

/-- The natural number `value` as a document. -/
def nat (value : Nat) : Json := .number (Numeral.ofInt value)

/-- The last field called `name`, when the document is an object that has one. -/
def field? (document : Json) (name : String) : Option Json :=
  match document with
  | .object fields => (fields.reverse.find? (fun field => field.1 == name)).map Prod.snd
  | _ => none

/-- Appends the fields `extra` to an object; any other document is left as it is. -/
def withFields (document : Json) (extra : List (String × Json)) : Json :=
  match document with
  | .object fields => .object (fields ++ extra)
  | other => other

end Json

end HeapKit
