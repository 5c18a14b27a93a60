import FeeOracle.Aggregator.SourceError
import FeeOracle.Decimal.Binary
import FeeOracle.Decimal.Reader
import FeeOracle.Json.Decode
import FeeOracle.Text.Blank

/-!
# Price fields

Exchanges send a price as a number or as a text that writes a decimal number. A text is read as a
decimal number first and only then becomes a double.
-/

namespace FeeOracle.Exchange

/-- A price as it was sent. -/
inductive PriceField
  | text (written : String)
  | number (value : Double)
deriving DecidableEq, Repr

namespace PriceField

/-- The price field that a document is: a text or a number, and nothing else. -/
def ofWritten? : Json.Written → Option PriceField
  | .text written => written.map text
  | .number numeral => (numeral.datum?.bind Datum.double?).map number
  | _ => none

/-- The double that a price field stands for. -/
def value (exchange : String) : PriceField → Except SourceError Double
  | number value => .ok value
  | text written =>
    let trimmed := Text.trim written
    match Decimal.parse trimmed with
    | .ok x => .ok x.toDouble
    | .error error => .error (.malformed exchange s!"invalid price '{trimmed}': {error.message}")

/-- The usable price that a price field stands for. -/
def price (exchange : String) (field : PriceField) : Except SourceError Double := do
  let value ← field.value exchange
  validatePrice exchange value

end PriceField
end FeeOracle.Exchange
