/-!
# Arguments

The arguments of the program: where the configuration is, and one of three commands. Options stand
before the command; a word that begins with a hyphen is an option unless two hyphens stand before
it.
-/

namespace FeeOracle.CommandLine

/-- What the program is to do. -/
inductive Command
  | price (base quote : String)
  | gas
  | serve
deriving DecidableEq, Repr

/-- What the words of a command line come to: the file to read, and what to do. -/
structure Arguments where
  configPath : String
  command : Command
deriving DecidableEq, Repr

/-- Why nothing is to be done: help was asked for, or the arguments make no sense. -/
inductive Refusal
  | help
  | usage
deriving DecidableEq, Repr

/-- The variable that says where the configuration is. -/
def configVariable : String := "ORACLE_CONFIG"

/-- Where the configuration is if nothing says so. -/
def defaultConfigPath : String := "config.toml"

/-- Does the word look like an option? A lone hyphen does not. -/
def isOption (word : String) : Bool := word.startsWith "-" && word != "-"

/-- The words of a command without the options among them; all words behind two hyphens are
    words. -/
def plainWords : List String → Except Refusal (List String)
  | [] => .ok []
  | "--" :: rest => .ok rest
  | word :: rest =>
    if word = "--help" ∨ word = "-h" then .error .help
    else if isOption word then .error .usage
    else (plainWords rest).map (word :: ·)

/-- A command with its words. -/
def readCommand (name : String) (words : List String) : Except Refusal Command := do
  let words ← plainWords words
  match name, words with
  | "price", [base, quote] => .ok (.price base quote)
  | "gas", [] => .ok .gas
  | "serve", [] => .ok .serve
  | _, _ => .error .usage

/-- The value of an option that is written in the same word, if this is that option. -/
def attachedValue? (word : String) : Option String :=
  if word.startsWith "--config=" then some (word.drop 9).toString
  else if word.startsWith "-c=" then some (word.drop 3).toString
  else if word.startsWith "-c" ∧ word != "-c" then some (word.drop 2).toString
  else none

/-- The place of the configuration as the options give it, and the command. -/
def readWords (configPath : Option String) : List String → Except Refusal (Option String × Command)
  | [] => .error .usage
  | word :: rest =>
    if word = "--help" ∨ word = "-h" ∨ word = "help" then .error .help
    else if word = "--config" ∨ word = "-c" then
      match rest with
      | value :: rest =>
        if configPath.isSome ∨ isOption value then .error .usage else readWords (some value) rest
      | [] => .error .usage
    else
      match attachedValue? word with
      | some value => if configPath.isSome then .error .usage else readWords (some value) rest
      | none =>
        if isOption word then .error .usage
        else (readCommand word rest).map fun command => (configPath, command)

/-- The arguments that some words give. The place of the configuration may not be empty. -/
def Arguments.ofWords (environment : String → Option String) (words : List String) :
    Except Refusal Arguments := do
  let (given, command) ← readWords none words
  let configPath := (given.or (environment configVariable)).getD defaultConfigPath
  if configPath.isEmpty then .error .usage else .ok { configPath, command }

end FeeOracle.CommandLine
