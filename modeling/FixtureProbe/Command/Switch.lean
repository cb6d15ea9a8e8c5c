/-!
# Words of the command line

The names of the commands and of the switches, and what is said about each of them.
-/

namespace FixtureProbe

/-!
# Commands
-/

inductive CommandName where
  | run
  | probe
  | debug
  | unfinished
  | fixture
  | league
  | team
  | gas
  | raw
  | bench
  | cross
  deriving DecidableEq

namespace CommandName

def all : List CommandName :=
  [.run, .probe, .debug, .unfinished, .fixture, .league, .team, .gas, .raw, .bench, .cross]

def text : CommandName -> String
  | .run => "run"
  | .probe => "probe"
  | .debug => "debug"
  | .unfinished => "unfinished"
  | .fixture => "match"
  | .league => "league"
  | .team => "team"
  | .gas => "gas"
  | .raw => "raw"
  | .bench => "bench"
  | .cross => "cross"

def about : CommandName -> String
  | .run => "Run every phase in order, from connectivity to the cross-reference pass"
  | .probe => "Check that the RPC endpoint is reachable"
  | .debug => "Show code, balance and ABI functions of the precompile"
  | .unfinished => "List the ids of unfinished matches"
  | .fixture => "Read one match (defaults to the first unfinished match)"
  | .league => "Read one league (defaults to the current match's league)"
  | .team => "Read one team (defaults to the current match's home team)"
  | .gas => "Estimate gas for each precompile function"
  | .raw => "Send encoded calls and inspect the undecoded answers"
  | .bench => "Measure call latency over repeated invocations"
  | .cross => "Follow matches to their league and teams"

def ofText? (word : String) : Option CommandName :=
  all.find? (·.text = word)

end CommandName

/-!
# Ids
-/

inductive IdCount where
  | none
  | atMostOne
  | any
  deriving DecidableEq

namespace IdCount

def ofCommand : CommandName -> IdCount
  | .fixture | .league | .team => .atMostOne
  | .cross => .any
  | _ => .none

def title? : IdCount -> Option String
  | .none => Option.none
  | .atMostOne => some "[ID]"
  | .any => some "[IDS]..."

/-- How ids that are given are written in a usage line. -/
def usedTitle? : IdCount -> Option String
  | .none => Option.none
  | .atMostOne => some "<ID>"
  | .any => some "<IDS>..."

def about : IdCount -> String
  | .none => ""
  | .atMostOne => "Numeric id; discovered from live data when omitted"
  | .any => "Match ids to follow; the first five unfinished matches when omitted"

end IdCount

/-!
# Switches
-/

inductive Switch where
  | iterations
  | rpcUrl
  | address
  | abi
  | config
  | json
  | verbose
  | logJson
  | help
  | version
  deriving DecidableEq

namespace Switch

def long : Switch -> String
  | .iterations => "iterations"
  | .rpcUrl => "rpc-url"
  | .address => "address"
  | .abi => "abi"
  | .config => "config"
  | .json => "json"
  | .verbose => "verbose"
  | .logJson => "log-json"
  | .help => "help"
  | .version => "version"

def short? : Switch -> Option Char
  | .iterations => some 'i'
  | .verbose => some 'v'
  | .help => some 'h'
  | .version => some 'V'
  | _ => none

def value? : Switch -> Option String
  | .iterations => some "ITERATIONS"
  | .rpcUrl => some "RPC_URL"
  | .address => some "ADDRESS"
  | .abi => some "ABI"
  | .config => some "CONFIG"
  | _ => none

def environmentName? : Switch -> Option String
  | .rpcUrl => some "FUTCHAIN_RPC_URL"
  | .address => some "FUTCHAIN_PRECOMPILE_ADDRESS"
  | .abi => some "FUTCHAIN_ABI_PATH"
  | _ => none

def about (command : Option CommandName) : Switch -> String
  | .iterations =>
      if command = some .run then "Latency iterations per function [default: 10]"
      else "Iterations per function [default: 10]"
  | .rpcUrl => "JSON-RPC endpoint"
  | .address => "Precompile address"
  | .abi => "JSON ABI to use instead of the built-in interface description"
  | .config => "TOML config file"
  | .json => "Output as JSON"
  | .verbose => "Debug logging on stderr"
  | .logJson => "Emit logs as JSON lines"
  | .help => "Print help"
  | .version => "Print version"

def title (switch : Switch) : String :=
  "--" ++ switch.long ++ ((switch.value?.map fun name => " <" ++ name ++ ">").getD "")

def everywhere : List Switch :=
  [.rpcUrl, .address, .abi, .config, .json, .verbose, .logJson]

/-- The switches of a command, or those before any command, in the order of their listing. -/
def available (command : Option CommandName) : List Switch :=
  (if command = some .run ∨ command = some .bench then [.iterations] else []) ++
    everywhere ++ [.help, .version]

end Switch

end FixtureProbe
