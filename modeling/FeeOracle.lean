import FeeOracle.Datum.Pointer
import FeeOracle.Main
import FeeOracle.Proofs.Consensus.Mean
import FeeOracle.Proofs.Consensus.Median
import FeeOracle.Proofs.Consensus.Manipulation
import FeeOracle.Aggregator.Round
import FeeOracle.Proofs.Aggregator.Accounting
import FeeOracle.Proofs.Aggregator.Quotes
import FeeOracle.Proofs.Double.Text
import FeeOracle.Proofs.Service.Price
import FeeOracle.Proofs.Ticker
import FeeOracle.Proofs.Ticker.Spelling
import FeeOracle.Proofs.Configuration.Acceptance
import FeeOracle.Proofs.Configuration.Override
import FeeOracle.Proofs.Configuration.Setup
import FeeOracle.Proofs.Text.Numeral
import FeeOracle.Proofs.Decimal.Numeral
import FeeOracle.Proofs.Denomination.Amount
import FeeOracle.Aggregator.Race
import FeeOracle.Denomination.Call
import FeeOracle.Proofs.Aggregator.Race
import FeeOracle.Proofs.Denomination.Call
import FeeOracle.Proofs.Denomination.Report
import FeeOracle.Proofs.Configuration.Loaded
import FeeOracle.Proofs.Denomination.Loaded
import FeeOracle.Proofs.Aggregator.Deadline
import FeeOracle.Proofs.Exchange.Form
import FeeOracle.Proofs.Exchange.Failures
import FeeOracle.Proofs.Exchange.Price
import FeeOracle.Proofs.Exchange.Query
import FeeOracle.Proofs.Exchange.Segment
import FeeOracle.Proofs.Service.Account
import FeeOracle.Proofs.Denomination.Exact
import FeeOracle.Proofs.Denomination.Accuracy
import FeeOracle.Proofs.Denomination.Vanishing
import FeeOracle.Proofs.Denomination.Order
import FeeOracle.Proofs.Denomination.Failures
import FeeOracle.Proofs.Denomination.Native
import FeeOracle.Proofs.Exchange.WrittenPrice
import FeeOracle.Proofs.Exchange.EitherForm
import FeeOracle.Proofs.Consensus.Order
import FeeOracle.Proofs.Gas.Text
import FeeOracle.Proofs.Gas.Tenths
import FeeOracle.Proofs.Gas.Order
