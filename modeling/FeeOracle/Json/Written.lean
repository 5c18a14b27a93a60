import FeeOracle.Datum.Basic
import FeeOracle.Text.Digits

/-!
# Documents as written

A document keeps what its text says and nothing is judged yet: numbers are digits, names may repeat,
and a text may hold an escape that is no character. Data is made from it afterwards, and only from
the parts that are wanted, so that what nobody reads cannot be at fault.
-/

namespace FeeOracle.Json

/-- A number as written: its digits before and after the point, and the sign and the digits of its
    exponent. -/
structure Numeral where
  negative : Bool
  whole : List Char
  fraction : List Char
  exponent : Option (Bool × List Char)
deriving DecidableEq, Repr

/-- A document as written. A text is absent if it holds an escape that is no character. -/
inductive Written
  | null
  | bool (value : Bool)
  | number (numeral : Numeral)
  | text (value : Option String)
  | list (items : List Written)
  | table (entries : List (Option String × Written))
deriving Inhabited, Repr

end FeeOracle.Json
