import FeeOracle.Datum.Decode
import FeeOracle.Decimal.Reader
import FeeOracle.Double.Arithmetic
import FeeOracle.Double.Text
import FeeOracle.Gas.Tiers
import FeeOracle.Json.Decode
import FeeOracle.Json.Printer
import FeeOracle.Power
import FeeOracle.Text.Blank

/-!
# Payloads of gas price services

One service sends the tiers as numbers, in tenths of the unit of gas prices, and whole units are
kept. The other sends them as texts that write decimal numbers, which are rounded to whole units,
and a status that tells whether they are there at all.
-/

namespace FeeOracle

open Json (Written)

/-- The greatest tier. -/
def maxTier : Nat := 2 ^ (64 : Nat) - 1

/-- A tier that makes no sense, under the name that it was sent with. -/
def invalidTier (name written : String) : GasError :=
  .malformed s!"{name} is not a valid gas price: {written}"

/-- The whole units in some tenths of a unit, no more than there can be. -/
def tierOfTenths (name : String) (tenths : Double) : Except GasError Nat :=
  if !tenths.isFinite ∨ Double.lt tenths 0 = true then .error (invalidTier name tenths.text)
  else .ok (min (tenths / 10).floorNat maxTier)

/-- The tiers as numbers, in tenths of a unit. -/
structure TenthsPayload where
  safeLow : Double
  fast : Double
  fastest : Double

namespace TenthsPayload

/-- The tiers that a document gives as numbers. -/
def ofWritten? (document : Written) : Option TenthsPayload := do
  let fields ← document.fields? ["safeLow", "fast", "fastest"]
  let safeLow ← Json.field? fields "safeLow" Written.double?
  let fast ← Json.field? fields "fast" Written.double?
  let fastest ← Json.field? fields "fastest" Written.double?
  some { safeLow, fast, fastest }

/-- The tiers in whole units. -/
def tiers (payload : TenthsPayload) : Except GasError GasTiers := do
  let slow ← tierOfTenths "safeLow" payload.safeLow
  let fast ← tierOfTenths "fast" payload.fast
  let fastest ← tierOfTenths "fastest" payload.fastest
  .ok { slow, fast, fastest }

end TenthsPayload

/-- The whole units that a text writes, rounded to even. -/
def tierOfText (name written : String) : Except GasError Nat :=
  match Decimal.readPlain (Text.trim written).toList with
  | .error _ => .error (invalidTier name written)
  | .ok x =>
    let units := halfEven x.coefficient (10 ^ x.scale)
    if x.negative ∨ maxTier < units then .error (invalidTier name written) else .ok units

/-- A status with a result, which is a message if the status tells of a failure. -/
structure StatusPayload where
  status : String
  message : String
  result : Datum

namespace StatusPayload

/-- The status and the result that a document gives. -/
def ofWritten? (document : Written) : Option StatusPayload := do
  let fields ← document.fields? ["status", "message", "result"]
  let status ← Json.field? fields "status" Written.text?
  let message ← Json.fieldOr? fields "message" "" Written.text?
  let result ← Json.field? fields "result" (Written.datum? (Json.maxDepth - 1))
  some { status, message, result }

/-- The texts of the three tiers in a result. -/
def tierTexts? (result : Datum) : Option (String × String × String) := do
  let fields ← result.fields? ["SafeGasPrice", "ProposeGasPrice", "FastGasPrice"]
  let safe ← Datum.field? fields "SafeGasPrice" Datum.text?
  let propose ← Datum.field? fields "ProposeGasPrice" Datum.text?
  let fast ← Datum.field? fields "FastGasPrice" Datum.text?
  some (safe, propose, fast)

/-- The tiers in whole units. -/
def tiers (payload : StatusPayload) : Except GasError GasTiers :=
  if payload.status ≠ "1" then
    .error (.malformed
      (s!"etherscan returned status {payload.status}: " ++
        s!"{payload.message} {Json.compact payload.result}"))
  else
    match tierTexts? payload.result with
    | none => .error (.malformed "unexpected form of the result")
    | some (safe, propose, fast) => do
      let slow ← tierOfText "SafeGasPrice" safe
      let middle ← tierOfText "ProposeGasPrice" propose
      let fastest ← tierOfText "FastGasPrice" fast
      .ok { slow, fast := middle, fastest }

end StatusPayload
end FeeOracle
