/-!
# The command line

What the agent can be told to do, and how.

* `Order` — what to do.
* `Order.parse?` — the order that arguments give; `none` if they give none.
* `Topic.text` — the help on a topic.

An option of a command takes the next argument or what stands behind an equals sign.  It may be
given once at each place where it may stand.  Help and version win over what stands behind them.
-/

namespace HostAgent.CommandLine

/-- What there is help on. -/
inductive Topic where
  | whole
  | run
  | check
  | help
  deriving DecidableEq, Repr

/-- What the agent is told to do. -/
inductive Order where
  | run (config : String)
  | check (config : String)
  | version
  | help (topic : Topic)
  deriving DecidableEq, Repr

/-- Where settings are looked for if no other place is given. -/
def defaultPath : String := "/etc/tether/tether.toml"

/-- The name and the number of the release. -/
def versionText : String := "tether 0.1.0\n"

/-- What stands behind an option in the same argument. -/
def attached? (option argument : String) : Option String :=
  if (option ++ "=").isPrefixOf argument then
    some (String.ofList (argument.toList.drop (option.length + 1)))
  else none

/-- Whether an argument begins like an option, so that it cannot be a value. -/
def looksLikeOption (a : String) : Bool :=
  a.startsWith "-" && a != "-"

/-- Whether an argument asks for help, perhaps among other letters behind that one. -/
def asksHelp (a : String) : Bool :=
  a == "--help" || "-h".isPrefixOf a

/-- Whether an argument asks for the version. -/
def asksVersion (a : String) : Bool :=
  a == "--version" || "-V".isPrefixOf a

/-- The order of a command that takes settings. -/
def command (topic : Topic) (make : String → Order) :
    Bool → Option String → List String → Option Order
  | _, config, [] => some (make (config.getD defaultPath))
  | _, config, ["--"] => some (make (config.getD defaultPath))
  | level, config, "--log-level" :: v :: rest =>
    if level || looksLikeOption v then none else command topic make true config rest
  | level, config, "--config" :: v :: rest =>
    if config.isSome || looksLikeOption v || v.isEmpty then none
    else command topic make level (some v) rest
  | level, config, a :: rest =>
    if asksHelp a then some (.help topic)
    else if (attached? "--log-level" a).isSome then
      if level then none else command topic make true config rest
    else match attached? "--config" a with
      | some v =>
        if config.isSome || v.isEmpty then none else command topic make level (some v) rest
      | none => none

/-- The topic that words name. -/
def topic? : List String → Option Topic
  | [] => some .whole
  | ["run"] => some .run
  | ["check-config"] => some .check
  | ["help"] => some .help
  | _ => none

/-- The order of arguments, after the level of the log has been given or not. -/
def orderFrom : Bool → List String → Option Order
  | _, [] => none
  | level, "--log-level" :: v :: rest =>
    if level || looksLikeOption v then none else orderFrom true rest
  | level, a :: rest =>
    if a = "run" then command .run .run false none rest
    else if a = "check-config" then command .check .check false none rest
    else if a = "help" then (topic? rest).map .help
    else if asksHelp a then some (.help .whole)
    else if asksVersion a then some .version
    else if (attached? "--log-level" a).isSome then
      if level then none else orderFrom true rest
    else none

/-- The order that arguments give. -/
def Order.parse? (args : List String) : Option Order :=
  orderFrom false args

/-- The line on the level of the log. -/
def levelHelp : String :=
  "      --log-level <LOG_LEVEL>  Log filter used when RUST_LOG is not set (e.g. \"debug\", " ++
    "\"tether_control=trace\") [default: info]\n"

/-- The lines on the options of a command that takes settings. -/
def configHelp : String :=
  "Options:\n      --config <CONFIG>        Path to the agent configuration file [default: " ++
    defaultPath ++ "]\n" ++ levelHelp ++ "  -h, --help                   Print help\n"

/-- The help on a topic. -/
def Topic.text : Topic → String
  | .whole =>
    "The tether host agent binary\n\nUsage: tether [OPTIONS] <COMMAND>\n\nCommands:\n" ++
      "  run           Connect to the management plane and serve until told to quit\n" ++
      "  check-config  Load and validate the configuration, then print a summary\n" ++
      "  help          Print this message or the help of the given subcommand(s)\n\nOptions:\n" ++
      levelHelp ++ "  -h, --help                   Print help\n" ++
      "  -V, --version                Print version\n"
  | .run =>
    "Connect to the management plane and serve until told to quit\n\n" ++
      "Usage: tether run [OPTIONS]\n\n" ++ configHelp
  | .check =>
    "Load and validate the configuration, then print a summary\n\n" ++
      "Usage: tether check-config [OPTIONS]\n\n" ++ configHelp
  | .help =>
    "Print this message or the help of the given subcommand(s)\n\n" ++
      "Usage: tether help [COMMAND]...\n\nArguments:\n" ++
      "  [COMMAND]...  Print help for the subcommand(s)\n"

end HostAgent.CommandLine
