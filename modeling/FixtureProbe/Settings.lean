import FixtureProbe.Chain.Address
import FixtureProbe.Decimal.Shortest
import FixtureProbe.Latency.Sampler
import FixtureProbe.Text.Quoted
import FixtureProbe.Toml.Excerpt

/-!
# Settings

Each setting comes from the command line or the environment if it is given there, else from the
settings file, else it has its built-in value. A settings file is a TOML document that may hold the
four settings and nothing else.
-/

namespace FixtureProbe

structure SettingsLayer where
  rpcUrl : Option String := none
  precompileAddress : Option String := none
  abiPath : Option String := none
  iterations : Option UInt32 := none
  deriving DecidableEq

structure Settings where
  rpcUrl : String
  precompileAddress : String
  /-- None for the built-in interface description. -/
  abiPath : Option String
  iterations : UInt32
  deriving DecidableEq

namespace Settings

def defaultRpcUrl : String := "http://localhost:8545"

def resolve (file overrides : SettingsLayer) : Settings where
  rpcUrl := (overrides.rpcUrl <|> file.rpcUrl).getD defaultRpcUrl
  precompileAddress :=
    (overrides.precompileAddress <|> file.precompileAddress).getD Address.precompile.text
  abiPath := overrides.abiPath <|> file.abiPath
  iterations := (overrides.iterations <|> file.iterations).getD Latency.defaultIterations

def text (settings : Settings) : String :=
  let abiPath := match settings.abiPath with
    | some path => "Some(" ++ Quoted.quotePath path ++ ")"
    | none => "None"
  "Settings \x7b rpc_url: " ++ Quoted.quote settings.rpcUrl ++
    ", precompile_address: " ++ Quoted.quote settings.precompileAddress ++
    ", abi_path: " ++ abiPath ++
    ", iterations: " ++ toString settings.iterations.toNat ++ " \x7d"

end Settings

namespace SettingsLayer

/-!
# Settings files
-/

inductive EntryError where
  | unknownKey (key : String)
  | wrongKind (value : Toml) (wanted : String)
  | outOfRange (n : Int) (wanted : String)

def keys : List String :=
  ["rpc_url", "precompile_address", "abi_path", "iterations"]

def shown : Toml -> String
  | .string s => "string " ++ Quoted.quote s
  | .integer n => "integer `" ++ toString n ++ "`"
  | .float x => "floating point `" ++ Decimal.positional x ++ "`"
  | .boolean b => "boolean `" ++ toString b ++ "`"
  | .array _ | .tables _ => "sequence"
  | .dateTime | .table .. => "map"

def EntryError.message : EntryError -> String
  | .unknownKey key => "unknown field `" ++ key ++ "`, expected one of " ++
      String.intercalate ", " (keys.map fun key => "`" ++ key ++ "`")
  | .wrongKind value wanted => "invalid type: " ++ shown value ++ ", expected " ++ wanted
  | .outOfRange n wanted =>
      "invalid value: " ++ shown (.integer n) ++ ", expected " ++ wanted

/-- Where an entry error stands: where the key does, or where its value does. -/
def EntryError.span? (document : Toml.Document) (key : String) : EntryError -> Option Toml.Span
  | .unknownKey _ => document.keySpan? key
  | .wrongKind .. | .outOfRange .. => document.valueSpan? key

inductive FileError where
  | malformed (failure : Toml.Failure)
  | entry (error : EntryError) (span : Option Toml.Span)

namespace FileError

/-- The unknown key of a settings file, if that is what is wrong. -/
def reason? : FileError -> Option String
  | .entry (.unknownKey key) _ => some (EntryError.unknownKey key).message
  | _ => none

def text (document : String) : FileError -> String
  | .malformed failure => failure.excerpt document
  | .entry error (some span) => Toml.excerpt document span error.message
  | .entry error none => error.message ++ "\n"

end FileError

def asText (wanted : String) : Toml -> Except EntryError String
  | .string s => .ok s
  | value => .error (.wrongKind value wanted)

def asIterations : Toml -> Except EntryError UInt32
  | .integer n =>
      if 0 ≤ n ∧ n < UInt32.size then .ok (.ofNat n.toNat) else .error (.outOfRange n "u32")
  | value => .error (.wrongKind value "u32")

def set (layer : SettingsLayer) (key : String) (value : Toml) :
    Except EntryError SettingsLayer := do
  match key with
  | "rpc_url" => return { layer with rpcUrl := some (← asText "a string" value) }
  | "precompile_address" =>
      return { layer with precompileAddress := some (← asText "a string" value) }
  | "abi_path" => return { layer with abiPath := some (← asText "path string" value) }
  | "iterations" => return { layer with iterations := some (← asIterations value) }
  | _ => throw (.unknownKey key)

/-- The settings in a document; the first entry that is wrong decides the failure. -/
def ofDocument (document : Toml.Document) : Except FileError SettingsLayer :=
  document.table.foldlM (fun layer (key, value) =>
    (layer.set key value).mapError fun error => .entry error (error.span? document key)) {}

def ofToml (document : String) : Except FileError SettingsLayer :=
  match Toml.parse document with
  | .ok document => ofDocument document
  | .error failure => .error (.malformed failure)

end SettingsLayer

end FixtureProbe
