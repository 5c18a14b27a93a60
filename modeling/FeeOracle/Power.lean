/-!
# Powers of natural numbers

A power of natural numbers is repeated multiplication as the core library defines it. The instance
that says so comes first in this namespace, so a bound such as `2 ^ 96` is the same term in every
module, whatever that module imports.
-/

namespace FeeOracle

attribute [scoped instance (2000)] instPowNat

end FeeOracle
