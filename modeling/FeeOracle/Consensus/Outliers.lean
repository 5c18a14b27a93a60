import FeeOracle.Aggregator.Readings
import FeeOracle.Double.Arithmetic

/-!
# Outliers

Sources whose price lies far from the median. Fewer than three prices say nothing about each other.
-/

namespace FeeOracle.Consensus

/-- The deviation from the median, relative to it. -/
def deviation (median price : Double) : Double := ((price - median) / median).abs

/-- The sources of the readings that deviate by more than the given share of the median. -/
def outliers (readings : List Reading) (median maxDeviation : Double) : List String :=
  if readings.length < 3 ∨ Double.le median 0 = true then []
  else (readings.filter fun reading => Double.lt maxDeviation (deviation median reading.price)).map
    (·.source)

/-- The deviation beyond which a source is reported. -/
def reportedDeviation : Double := 0.05

/-- How that deviation is written, in percent. -/
def reportedPercent : String := "5"

end FeeOracle.Consensus
