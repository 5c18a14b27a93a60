import FeeOracle.CommandLine.Run

/-!
# The program

Collects what a run meets, runs, and writes what comes of it. The program has no network and no
listener of its own: every request is lost, and there is nowhere to listen.
-/

open FeeOracle

/-- The values of the variables that a run looks at. -/
def readVariables : IO (List (String × String)) := do
  let names :=
    [CommandLine.configVariable, Configuration.gasKeyVariable, Configuration.listenVariable] ++
    (Exchange.all.filter Exchange.takesKey).map Configuration.keyVariable
  let mut found := []
  for name in names do
    if let some value ← IO.getEnv name then
      found := found ++ [(name, value)]
  return found

/-- The contents of a file, if it can be read. -/
def readContents (path : String) : IO (Option String) := do
  try
    return some (← IO.FS.readFile path)
  catch _ =>
    return none

/-- Reads what a run needs of the world, runs, and writes what came of it. -/
def main (words : List String) : IO UInt32 := do
  let environmentValues ← readVariables
  let environment := fun name => environmentValues.lookup name
  let contents ← match CommandLine.Arguments.ofWords environment words with
    | .ok arguments => readContents arguments.configPath
    | .error _ => pure none
  let outcome := CommandLine.run
    { environment
      file? := fun _ => contents
      network := Http.Network.offline
      canListen := fun _ => false
      now := ← IO.monoMsNow } words
  for line in outcome.written do
    IO.println line
  if let .failed message := outcome.ending then
    IO.eprintln ("Error: " ++ message)
  return outcome.ending.code.toUInt32
