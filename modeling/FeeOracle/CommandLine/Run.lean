import FeeOracle.CommandLine.Arguments
import FeeOracle.Configuration.Load
import FeeOracle.Exchange.Adapter
import FeeOracle.Gas.Provider
import FeeOracle.Service.Reply

/-!
# Running the program

What a run of the program writes and how it ends. A run loads the configuration, sets up what is
configured and carries out its command; the first thing that goes wrong ends it.
-/

namespace FeeOracle.CommandLine

/-- What a run meets: the variables, the files, the network, where it may listen, and the time in
    milliseconds. -/
structure Surroundings where
  environment : String → Option String
  file? : String → Option String
  network : Http.Network
  canListen : String → Bool
  now : Nat

/-- How a run ends. A failure has a message; a run is aborted if a deadline lies beyond the end of
    clocks, and serving has no end of its own. -/
inductive Ending
  | done
  | failed (message : String)
  | misused
  | aborted
  | serving (aggregator : Aggregator) (settings : GasSettings) (provider : GasProvider)

/-- The code that a run ends with. -/
def Ending.code : Ending → Nat
  | done => 0
  | failed _ => 1
  | misused => 2
  | aborted => 101
  | serving _ _ _ => 0

/-- What a run writes, and how it ends. -/
structure Outcome where
  written : List String := []
  ending : Ending

/-- Why there is no configuration, told with the path of its file. -/
def loadMessage (path : String) : LoadError → String
  | .unreadable => s!"Failed to read config file: {Text.quote path}"
  | .undecodable => s!"Failed to parse TOML in {Text.quote path}"
  | .unusable cause => cause.message

/-- A text with blanks behind it, up to a width. -/
def padded (width : Nat) (text : String) : String :=
  text ++ String.ofList (List.replicate (width - text.length) ' ')

/-- The line about one source, its name filled up with blanks. -/
def sourceLine (source result : String) : String := "  " ++ padded 10 source ++ " " ++ result

/-- The lines about all sources, those with a price first. -/
def sourceLines (readings : Readings) : List String :=
  readings.successes.map (fun reading => sourceLine reading.source reading.price.text) ++
    readings.failures.map fun failure => sourceLine failure.source failure.error.message

/-- The last line about a pair: its quote, or the number that stands for a missing one. -/
def quoteLine (pair : TickerPair) (readings : Readings) : String :=
  pair.text ++ " " ++ (priceOrMissing (readings.quote pair)).text

/-- Looks up the price of a pair and writes what came of it, source by source. The run breaks off if
    there is no deadline to wait for. -/
def runPrice (now : Nat) (aggregator : Aggregator) (base quote : String) : Outcome :=
  match TickerPair.of base quote with
  | .error error => { ending := .failed error.message }
  | .ok pair =>
    match aggregator.readingsAt? now pair with
    | none => { ending := .aborted }
    | some readings =>
      { written := sourceLines readings ++ [quoteLine pair readings], ending := .done }

/-- The lines of one row; no comma follows the last one. -/
def rowLines (row : Denomination.Row) (last : Bool) : List String :=
  ["  \x7b", "    \x22base\x22: " ++ Json.quoted row.base ++ ",",
    "    \x22denomination\x22: " ++ Json.quoted row.amount, if last then "  \x7d" else "  \x7d,"]

/-- The lines of all rows. -/
def rowsLines : List Denomination.Row → List String
  | [] => []
  | [row] => rowLines row true
  | row :: rest => rowLines row false ++ rowsLines rest

/-- The lines of the document that lists the rows. -/
def rowsDocument (rows : List Denomination.Row) : List String :=
  if rows.isEmpty then ["[]"] else "[" :: rowsLines rows ++ ["]"]

/-- Expresses the gas price and writes the rows. The run breaks off if a source was to be asked and
    there is no deadline to wait for. -/
def runGas (surroundings : Surroundings) (aggregator : Aggregator) (provider : GasProvider)
    (settings : GasSettings) : Outcome :=
  let report := Denomination.report aggregator settings (provider.tiers surroundings.network)
  if report.asked ≠ [] ∧ (aggregator.deadline? surroundings.now).isNone then { ending := .aborted }
  else
    match report.rows with
    | .error error => { ending := .failed error.message }
    | .ok rows => { written := rowsDocument rows, ending := .done }

/-- Does what the command says, with the sources and the provider that were set up. -/
def runCommand (surroundings : Surroundings) (configuration : Configuration)
    (aggregator : Aggregator)
    (provider : GasProvider) : Command → Outcome
  | .price base quote => runPrice surroundings.now aggregator base quote
  | .gas => runGas surroundings aggregator provider configuration.gas
  | .serve =>
    let address := configuration.server.listenAddress
    if surroundings.canListen address then
      { ending := .serving aggregator configuration.gas provider }
    else { ending := .failed s!"Failed to bind {address}" }

/-- Sets up the sources, then the provider, and does what the command says; the sources are reported
    first if both fail. -/
def runConfigured (surroundings : Surroundings) (configuration : Configuration)
    (command : Command) : Outcome :=
  match configuration.exchange.aggregator surroundings.network,
      GasProvider.ofSettings configuration.gas.provider with
  | .error error, _ => { ending := .failed error.message }
  | _, .error error => { ending := .failed error.message }
  | .ok aggregator, .ok provider =>
    runCommand surroundings configuration aggregator provider command

/-- A whole run: the words are read, then the configuration, and the command is carried out. -/
def run (surroundings : Surroundings) (words : List String) : Outcome :=
  match Arguments.ofWords surroundings.environment words with
  | .error .help => { ending := .done }
  | .error .usage => { ending := .misused }
  | .ok arguments =>
    match Configuration.ofFile (surroundings.file? arguments.configPath)
      surroundings.environment with
    | .error error => { ending := .failed (loadMessage arguments.configPath error) }
    | .ok configuration => runConfigured surroundings configuration arguments.command

end FeeOracle.CommandLine
