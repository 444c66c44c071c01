import Understudy.CommandLine
import Understudy.Configuration.File

/-!
# The program

Loads the configuration that the command line and the environment ask for, and reports its
warnings, or why there is none.
-/

namespace Understudy

/-- The names of the options, in the order of the help text. -/
def helpText : String :=
  "Programmable HTTP stub server\n\n" ++
    "Options:\n" ++
    "  -c, --config <CONFIG>          YAML configuration file\n" ++
    "  -p, --port <PORT>              Listen port (overrides the config file)\n" ++
    "      --allow-partial-mapping    Answer with the closest partial match\n" ++
    "      --proxy-url <PROXY_URL>    Forward unmatched requests to this URL\n" ++
    "      --log-format <LOG_FORMAT>  text or json\n" ++
    "  -h, --help                     Print help\n" ++
    "  -V, --version                  Print version"

/-- What is said about words that give no arguments. -/
def CommandLine.UsageError.message : UsageError → String
  | .unknownArgument => "error: unexpected argument found"
  | .missingOrUnlistedValue => "error: a value is required or not one of those listed"
  | .badPort => "error: the port is not a number from 0 to 65535"
  | .repeated => "error: an option cannot be used multiple times"
  | .valueForFlag => "error: unexpected value for a flag"
  | .help => helpText
  | .version => "understudy 0.1.0"

/-- The content of a file, if it can be read. -/
def readContent? (path : String) : IO (Option ByteArray) := do
  try
    return some (← IO.FS.readBinFile path)
  catch _ => return none

/-- The values of the variables that the command line goes by. -/
def readEnvironment : IO (List (String × String)) := do
  let values ← CommandLine.environmentNames.mapM fun (_, name) => do
    return (← IO.getEnv name).map (name, ·)
  return values.filterMap id

/-- Runs with the given words, and the exit code. -/
def run (words : List String) : IO UInt32 := do
  let environment ← readEnvironment
  match CommandLine.parse (fun name => environment.lookup name) words with
  | .error problem =>
      if problem = .help || problem = .version then
        IO.println problem.message
        return 0
      else
        IO.eprintln problem.message
        return 2
  | .ok arguments =>
      let content ← arguments.configPath.bindM readContent?
      match arguments.configuration fun path => Configuration.ofFile path content with
      | .error problem =>
          IO.eprintln ("Error: " ++ problem.message)
          return 1
      | .ok (configuration, warnings) =>
          for line in warnings do
            IO.eprintln (line.level ++ " " ++ line.text)
          IO.println
            ("listening on " ++ configuration.listen.host ++ ":" ++
              Nat.repr configuration.listen.port.toNat)
          return 0

end Understudy

/-- The entry point. -/
def main (words : List String) : IO UInt32 :=
  Understudy.run words
