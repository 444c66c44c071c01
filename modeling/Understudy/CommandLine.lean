import Understudy.Configuration

/-!
# The command line

The arguments of the program.  An option takes its value from the same word, behind an equals
sign or directly behind a single letter, or from the next word, unless that starts with a dash.
A value in the next word is only checked when the next option begins or the words end, so an
unknown argument in between is reported first.  Options that are missing are taken from the
environment.
-/

namespace Understudy.CommandLine

/-- The form of the log. -/
inductive LogFormat where
  | text
  | json
  deriving DecidableEq, Repr

/-- The arguments. -/
structure Arguments where
  configPath : Option String
  port : Option UInt16
  allowPartial : Bool
  proxyUrl : Option String
  logFormat : Option LogFormat
  deriving DecidableEq, Repr, Inhabited

/-- The options that take a value. -/
inductive ValueOption where
  | config
  | port
  | proxyUrl
  | logFormat
  deriving DecidableEq, Repr

/-- The options that take no value. -/
inductive Flag where
  | allowPartial
  | help
  | version
  deriving DecidableEq, Repr

/-- An option of either kind. -/
inductive OptionName where
  | value (option : ValueOption)
  | flag (flag : Flag)
  deriving DecidableEq, Repr

/-- Why the words give no arguments. -/
inductive UsageError where
  /-- A word that means nothing where it stands. -/
  | unknownArgument
  /-- An option without its value, or with none of the listed values. -/
  | missingOrUnlistedValue
  /-- A value that is no port. -/
  | badPort
  /-- An option that is given twice. -/
  | repeated
  /-- A flag with a value. -/
  | valueForFlag
  /-- Help is asked for. -/
  | help
  /-- The version is asked for. -/
  | version
  deriving DecidableEq, Repr

/-- The option of a long name. -/
def longOption? : String → Option OptionName
  | "config" => some (.value .config)
  | "port" => some (.value .port)
  | "proxy-url" => some (.value .proxyUrl)
  | "log-format" => some (.value .logFormat)
  | "allow-partial-mapping" => some (.flag .allowPartial)
  | "help" => some (.flag .help)
  | "version" => some (.flag .version)
  | _ => none

/-- The option of a letter. -/
def shortOption? : Char → Option OptionName
  | 'c' => some (.value .config)
  | 'p' => some (.value .port)
  | 'h' => some (.flag .help)
  | 'V' => some (.flag .version)
  | _ => none

/-- What a word is. -/
inductive Word where
  /-- Two dashes: no options follow. -/
  | terminator
  /-- A long option, with the text behind its equals sign. -/
  | long (name : String) (attached : Option String)
  /-- A letter, with the text behind it. -/
  | short (letter : Char) (attached : List Char)
  /-- Anything else, also a lone dash. -/
  | plain (text : String)

/-- Tells what a word is. -/
def Word.ofText (text : String) : Word :=
  match text.toList with
  | ['-', '-'] => .terminator
  | '-' :: '-' :: rest =>
      let name := rest.takeWhile (· ≠ '=')
      .long (String.ofList name)
        (if name.length < rest.length then some (String.ofList (rest.drop (name.length + 1)))
        else none)
  | '-' :: letter :: attached => .short letter attached
  | _ => .plain text

/-- The value behind the letter of an option: nothing if the word ends there. -/
def attachedValue? : List Char → Option String
  | [] => none
  | '=' :: value => some (String.ofList value)
  | value => some (String.ofList value)

/-- The number that decimal digits behind an optional sign write. -/
def integer? (text : String) : Option Int :=
  let number? (digits : List Char) : Option Nat :=
    if digits.isEmpty || !digits.all Char.isDigit then none
    else some (digits.foldl (fun number digit => number * 10 + (digit.toNat - '0'.toNat)) 0)
  match text.toList with
  | '+' :: digits => Int.ofNat <$> number? digits
  | '-' :: digits => (fun number => -Int.ofNat number) <$> number? digits
  | digits => Int.ofNat <$> number? digits

/-- The port that a text writes. -/
def port? (text : String) : Option UInt16 :=
  (integer? text).bind fun number =>
    if 0 ≤ number ∧ number < 65536 then some (UInt16.ofNat number.toNat) else none

/-- The log format that a text names. -/
def logFormat? : String → Option LogFormat
  | "text" => some .text
  | "json" => some .json
  | _ => none

/-- Whether an option has been given. -/
def Arguments.has (arguments : Arguments) : ValueOption → Bool
  | .config => arguments.configPath.isSome
  | .port => arguments.port.isSome
  | .proxyUrl => arguments.proxyUrl.isSome
  | .logFormat => arguments.logFormat.isSome

/-- The arguments with the value of an option. -/
def Arguments.set (arguments : Arguments) (option : ValueOption) (value : String) :
    Except UsageError Arguments :=
  match option with
  | .config => .ok { arguments with configPath := some value }
  | .proxyUrl => .ok { arguments with proxyUrl := some value }
  | .port =>
      match port? value with
      | some port => .ok { arguments with port := some port }
      | none => .error .badPort
  | .logFormat =>
      match logFormat? value with
      | some format => .ok { arguments with logFormat := some format }
      | none => .error .missingOrUnlistedValue

/-- Gives an option its value, which may be missing. -/
def Arguments.give (arguments : Arguments) (option : ValueOption) (value : Option String) :
    Except UsageError Arguments :=
  match value with
  | none => .error .missingOrUnlistedValue
  | some value => if arguments.has option then .error .repeated else arguments.set option value

/-- Raises a flag. -/
def Arguments.raise (arguments : Arguments) : Flag → Except UsageError Arguments
  | .allowPartial =>
      if arguments.allowPartial then .error .repeated
      else .ok { arguments with allowPartial := true }
  | .help => .error .help
  | .version => .error .version

/-- The arguments so far, and the option whose value is not yet checked. -/
structure Progress where
  arguments : Arguments
  pending : Option (ValueOption × Option String)
  deriving Inhabited

/-- The arguments with the pending option. -/
def Progress.settle (progress : Progress) : Except UsageError Arguments :=
  match progress.pending with
  | none => .ok progress.arguments
  | some (option, value) => progress.arguments.give option value

/-- Begins an option that may have a value in its own word. -/
def Progress.beginOption (progress : Progress) (option : ValueOption) (attached : Option String) :
    Except UsageError Progress := do
  let arguments ← progress.settle
  match attached with
  | none => return ⟨arguments, some (option, none)⟩
  | some value => return ⟨← arguments.give option (some value), none⟩

/-- Raises a flag behind the pending option. -/
def Progress.beginFlag (progress : Progress) (flag : Flag) : Except UsageError Progress := do
  return ⟨← (← progress.settle).raise flag, none⟩

/-- Takes one word. -/
def Progress.take (progress : Progress) : Word → Except UsageError Progress
  | .terminator => .ok progress
  | .long name attached =>
      match longOption? name with
      | none => .error .unknownArgument
      | some (.value option) => progress.beginOption option attached
      | some (.flag flag) =>
          if attached.isSome then .error .valueForFlag else progress.beginFlag flag
  | .short letter attached =>
      match shortOption? letter with
      | none => .error .unknownArgument
      | some (.value option) => progress.beginOption option (attachedValue? attached)
      | some (.flag flag) => progress.beginFlag flag
  | .plain text =>
      match progress.pending with
      | some (option, none) => .ok { progress with pending := some (option, some text) }
      | _ => .error .unknownArgument

/-- Takes the words in order.  Nothing may stand behind a terminator. -/
def Progress.takeAll (progress : Progress) : List String → Except UsageError Progress
  | [] => .ok progress
  | word :: rest =>
      match Word.ofText word with
      | .terminator => if rest.isEmpty then .ok progress else .error .unknownArgument
      | word => do (← progress.take word).takeAll rest

/-- The options that the environment can give, with their variables, in order. -/
def environmentNames : List (ValueOption × String) :=
  [(.config, "MOCKINGBIRD_CONFIG"), (.port, "MOCKINGBIRD_PORT"),
    (.proxyUrl, "MOCKINGBIRD_PROXY_URL")]

/-- Takes the missing options from the environment. -/
def Arguments.complete (environment : String → Option String) (arguments : Arguments) :
    Except UsageError Arguments :=
  environmentNames.foldlM
    (fun arguments (option, name) =>
      match environment name with
      | some value => if arguments.has option then .ok arguments else arguments.set option value
      | none => .ok arguments)
    arguments

/-- The arguments of the words and the environment. -/
def parse (environment : String → Option String) (words : List String) :
    Except UsageError Arguments := do
  (← (← Progress.takeAll default words).settle).complete environment

/-- The configuration with the arguments in place of its own settings. -/
def Arguments.override (arguments : Arguments) (configuration : Configuration) : Configuration :=
  { configuration with
    listen :=
      { configuration.listen with port := arguments.port.getD configuration.listen.port }
    matching :=
      { configuration.matching with
        allowPartial := configuration.matching.allowPartial || arguments.allowPartial }
    recording :=
      { configuration.recording with
        url := arguments.proxyUrl <|> configuration.recording.url
        save := configuration.recording.save || arguments.proxyUrl.isSome } }

/-- The configuration that the arguments ask for, and all warnings.  A configuration from a file
has to be valid by itself, and again with the arguments. -/
def Arguments.configuration (arguments : Arguments)
    (readFile : String → Except ConfigurationError (Configuration × List LogLine)) :
    Except ConfigurationError (Configuration × List LogLine) := do
  let (base, early) ←
    match arguments.configPath with
    | some path => readFile path
    | none => pure (default, [])
  let configuration := arguments.override base
  return (configuration, early ++ (← configuration.validate))

end Understudy.CommandLine
