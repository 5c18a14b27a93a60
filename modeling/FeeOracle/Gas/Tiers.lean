/-!
# Gas price tiers

What a unit of gas costs on the chain, for a slow, a fast and the fastest transaction, in the unit
in which the chain counts gas prices.
-/

namespace FeeOracle

/-- The three tiers of a gas price. -/
structure GasTiers where
  slow : Nat
  fast : Nat
  fastest : Nat
deriving DecidableEq, Repr, Inhabited

/-- Why the gas price could not be read. -/
inductive GasError
  | http (detail : String)
  | status (code : Nat) (body : String)
  | malformed (detail : String)
deriving DecidableEq, Repr

/-- The text of the error. -/
def GasError.message : GasError → String
  | http detail => s!"gas price request failed: {detail}"
  | status code body => s!"gas price source returned status {code}: {body}"
  | malformed detail => s!"malformed gas price response: {detail}"

end FeeOracle
