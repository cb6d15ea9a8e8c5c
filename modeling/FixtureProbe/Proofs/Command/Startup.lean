import FixtureProbe.Proofs.Command.Course
import FixtureProbe.Proofs.Precompile.Loading

/-!
# Starting up

Before the node is asked for anything, the arguments and the files are turned into settings, and
the settings into an endpoint and a reader; then the node is probed. The first thing that is wrong
decides what is reported: the settings file, the interface description, the URL, the address, and
last the connection. This module says for each stage what makes it succeed and what makes it fail,
and that there is nothing else.
-/

namespace FixtureProbe

open Dialogue
open Terminal (Line)

variable {σ : Type}

namespace Program

/-!
# Settings
-/

section Stages

variable (files : String -> Except String String) (arguments : Arguments) (settings : Settings)

/-- The settings that the arguments come to, with the settings file that they name. -/
inductive Resolves : Settings -> Prop where
  | withoutFile (hpath : arguments.config = none) : Resolves (.resolve {} arguments.overrides)
  | withFile {path document : String} {layer : SettingsLayer}
      (hpath : arguments.config = some path) (hread : files path = .ok document)
      (hlayer : SettingsLayer.ofToml document = .ok layer) :
      Resolves (.resolve layer arguments.overrides)

/-- Why the arguments come to no settings. -/
inductive Unresolved : String -> Prop where
  | unreadable {path reason : String} (hpath : arguments.config = some path)
      (hread : files path = .error reason) :
      Unresolved ("Cannot read config " ++ path ++ ": " ++ reason)
  | invalid {path document : String} {error : SettingsLayer.FileError}
      (hpath : arguments.config = some path) (hread : files path = .ok document)
      (hlayer : SettingsLayer.ofToml document = .error error) :
      Unresolved ("Invalid config: " ++ error.text document)

/-!
# Readers
-/

/-- The interface under given settings: the built-in one, or the one described in a file. -/
inductive Describes : Interface -> Prop where
  | builtIn (hpath : settings.abiPath = none) : Describes Interface.embedded
  | withFile {path text : String} {interface : Interface} (hpath : settings.abiPath = some path)
      (hread : files path = .ok text) (hload : Interface.load text = .ok interface) :
      Describes interface

/-- Settings from which an endpoint and a reader can be built. -/
structure Builds (endpoint : Endpoint) (reader : Reader) : Prop where
  interface : Describes files settings reader.interface
  url : Endpoint.parse settings.rpcUrl = .ok endpoint
  address : Address.parse? settings.precompileAddress = some reader.address

/-- Why no reader can be built; a stage is reached only if all before it have succeeded. -/
inductive Unbuilt : ProbeError -> Prop where
  | unreadable {path reason : String} (hpath : settings.abiPath = some path)
      (hread : files path = .error reason) : Unbuilt (.interface (path ++ ": " ++ reason))
  | interface {path text : String} {e : ProbeError} (hpath : settings.abiPath = some path)
      (hread : files path = .ok text) (hload : Interface.load text = .error e) : Unbuilt e
  | url {interface : Interface} {e : ProbeError} (hinterface : Describes files settings interface)
      (hurl : Endpoint.parse settings.rpcUrl = .error e) : Unbuilt e
  | address {interface : Interface} {endpoint : Endpoint}
      (hinterface : Describes files settings interface)
      (hurl : Endpoint.parse settings.rpcUrl = .ok endpoint)
      (haddress : Address.parse? settings.precompileAddress = none) :
      Unbuilt (.invalidAddress settings.precompileAddress)

end Stages

section Characterised

variable {files : String -> Except String String} {arguments : Arguments} {settings : Settings}

theorem settings_of_resolves (h : Resolves files arguments settings) :
    Program.settings arguments (arguments.config.map files) = .ok settings := by
  cases h with
  | withoutFile hpath =>
      rw [hpath]
      rfl
  | withFile hpath hread hlayer =>
      rw [hpath, Option.map_some, hread, Program.settings]
      dsimp only
      rw [hlayer]
      rfl

theorem settings_of_unresolved {reason : String} (h : Unresolved files arguments reason) :
    Program.settings arguments (arguments.config.map files) = .error reason := by
  cases h with
  | unreadable hpath hread =>
      rw [hpath, Option.map_some, hread, Program.settings, hpath]
      rfl
  | invalid hpath hread hlayer =>
      rw [hpath, Option.map_some, hread, Program.settings]
      dsimp only
      rw [hlayer]
      rfl

theorem resolves_or_unresolved (files : String -> Except String String) (arguments : Arguments) :
    (exists settings, Resolves files arguments settings) ∨
      exists reason, Unresolved files arguments reason := by
  cases hpath : arguments.config with
  | none => exact Or.inl ⟨_, .withoutFile hpath⟩
  | some path =>
      cases hread : files path with
      | error reason => exact Or.inr ⟨_, .unreadable hpath hread⟩
      | ok document =>
          cases hlayer : SettingsLayer.ofToml document with
          | error error => exact Or.inr ⟨_, .invalid hpath hread hlayer⟩
          | ok layer => exact Or.inl ⟨_, .withFile hpath hread hlayer⟩

/-- The first stage of a build comes to the interface that the settings describe. -/
theorem build_of_describes {interface : Interface} (h : Describes files settings interface) :
    build settings (settings.abiPath.map files) = (do
      let endpoint ← Endpoint.parse settings.rpcUrl
      return (endpoint, ← Reader.atAddress interface settings.precompileAddress)) := by
  cases h with
  | builtIn hpath =>
      rw [hpath, Option.map_none, build]
      dsimp only
      rw [Interface.load_embeddedText]
      rfl
  | withFile hpath hread hload =>
      rw [hpath, Option.map_some, hread, build]
      dsimp only
      rw [hload]
      rfl

theorem build_of_builds {endpoint : Endpoint} {reader : Reader}
    (h : Builds files settings endpoint reader) :
    build settings (settings.abiPath.map files) = .ok (endpoint, reader) := by
  rw [build_of_describes h.interface, h.url, Reader.atAddress, h.address]
  rfl

theorem build_of_unbuilt {e : ProbeError} (h : Unbuilt files settings e) :
    build settings (settings.abiPath.map files) = .error e := by
  cases h with
  | unreadable hpath hread =>
      rw [hpath, Option.map_some, hread, build, hpath]
      rfl
  | interface hpath hread hload =>
      rw [hpath, Option.map_some, hread, build]
      dsimp only
      rw [hload]
      rfl
  | url hinterface hurl =>
      rw [build_of_describes hinterface, hurl]
      rfl
  | address hinterface hurl haddress =>
      rw [build_of_describes hinterface, hurl, Reader.atAddress, haddress]
      rfl

theorem describes_or_unbuilt (files : String -> Except String String) (settings : Settings) :
    (exists interface, Describes files settings interface) ∨
      exists e, Unbuilt files settings e := by
  cases hpath : settings.abiPath with
  | none => exact Or.inl ⟨_, .builtIn hpath⟩
  | some path =>
      cases hread : files path with
      | error reason => exact Or.inr ⟨_, .unreadable hpath hread⟩
      | ok text =>
          cases hload : Interface.load text with
          | error e => exact Or.inr ⟨e, .interface hpath hread hload⟩
          | ok interface => exact Or.inl ⟨interface, .withFile hpath hread hload⟩

theorem builds_or_unbuilt (files : String -> Except String String) (settings : Settings) :
    (exists endpoint reader, Builds files settings endpoint reader) ∨
      exists e, Unbuilt files settings e := by
  rcases describes_or_unbuilt files settings with ⟨interface, hinterface⟩ | hunbuilt
  · cases hurl : Endpoint.parse settings.rpcUrl with
    | error e => exact Or.inr ⟨e, .url hinterface hurl⟩
    | ok endpoint =>
        cases haddress : Address.parse? settings.precompileAddress with
        | none => exact Or.inr ⟨_, .address hinterface hurl haddress⟩
        | some address =>
            exact Or.inl ⟨endpoint, ⟨interface, address⟩, hinterface, hurl, haddress⟩
  · exact Or.inr hunbuilt

end Characterised

/-!
# Faults
-/

/-- What ends a program before its command has begun. -/
inductive Fault where
  | settings (reason : String)
  | error (e : ProbeError)

namespace Fault

/-- The line that reports a fault. A fault of the settings is a line for a person in any case. -/
def line (json : Bool) : Fault -> Line
  | .settings reason => .failure .error "" reason
  | .error e =>
      if json then .document (.object [("success", .bool false), ("error", e.json)])
      else match e with
        | .connectivity _ => .failure .error "Cannot proceed without connection: " e.message
        | _ => .failure .error "Cannot proceed: " e.message

/-- The hint that follows on a failed connection, unless the output is for a program. -/
def hints (json : Bool) : Fault -> List Line
  | .error (.connectivity _) =>
      if json then [] else [.hint "Check that the node is running or pass --rpc-url."]
  | _ => []

end Fault

section Faults

variable (files : String -> Except String String) (arguments : Arguments)

/-- A fault of the settings or of the reader. -/
inductive Misconfigured : Fault -> Prop where
  | settings {reason : String} (h : Unresolved files arguments reason) :
      Misconfigured (.settings reason)
  | reader {settings : Settings} {e : ProbeError} (hsettings : Resolves files arguments settings)
      (h : Unbuilt files settings e) : Misconfigured (.error e)

/-- There are settings and a reader, but the probe of the node fails. -/
inductive Refused (node : Node σ) (s : σ) : Fault -> Prop where
  | probe {settings : Settings} {endpoint : Endpoint} {reader : Reader} {e : ProbeError}
      {log : List Exchange} {s' : σ} (hsettings : Resolves files arguments settings)
      (hbuilds : Builds files settings endpoint reader)
      (hprobe : Runs node s Reader.probe (.error e) log s') : Refused node s (.error e)

/-- There are settings and a reader, and the probe succeeds and leaves the node in a state. -/
inductive Connects (node : Node σ) (s : σ) : Reader -> σ -> Prop where
  | probe {settings : Settings} {endpoint : Endpoint} {reader : Reader} {chain : ChainStatus}
      {log : List Exchange} {s₁ : σ} (hsettings : Resolves files arguments settings)
      (hbuilds : Builds files settings endpoint reader)
      (hprobe : Runs node s Reader.probe (.ok chain) log s₁) : Connects node s reader s₁

/-- A program is misconfigured, refused or connected. -/
theorem start_cases (node : Node σ) (s : σ) :
    (exists fault, Misconfigured files arguments fault) ∨
      (exists fault, Refused files arguments node s fault) ∨
      exists reader s₁, Connects files arguments node s reader s₁ := by
  rcases resolves_or_unresolved files arguments with ⟨settings, hsettings⟩ | ⟨reason, hreason⟩
  · rcases builds_or_unbuilt files settings with ⟨endpoint, reader, hbuilds⟩ | ⟨e, hunbuilt⟩
    · have hprobe := Runs.self node s Reader.probe
      cases hvalue : (Reader.probe.run node s).value with
      | error e =>
          rw [hvalue] at hprobe
          exact Or.inr (Or.inl ⟨_, .probe hsettings hbuilds hprobe⟩)
      | ok chain =>
          rw [hvalue] at hprobe
          exact Or.inr (Or.inr ⟨reader, _, .probe hsettings hbuilds hprobe⟩)
    · exact Or.inl ⟨_, .reader hsettings hunbuilt⟩
  · exact Or.inl ⟨_, .settings hreason⟩

end Faults

section Runs

variable {env : String -> Option String} {files : String -> Except String String}
  {arguments : Arguments} {settings : Settings} {endpoint : Endpoint} {reader : Reader}
  {node : Node σ} {s s' : σ} {ending : Ending} {log : List Exchange}

/-- A program with settings and a reader runs as its command does. -/
theorem runs_execution_of_builds (hsettings : Resolves files arguments settings)
    (hbuilds : Builds files settings endpoint reader)
    (hrun : Runs node s
      (Command.execute (context arguments settings) (.ok reader) arguments.command) ending log s') :
    Runs node s (execution env files arguments) ending.code log s' := by
  apply runs_execution (settings_of_resolves hsettings)
  rw [build_of_builds hbuilds]
  exact hrun

/-- A program with settings and a reader prints the lines of its command. -/
theorem lines_execution_of_builds (hsettings : Resolves files arguments settings)
    (hbuilds : Builds files settings endpoint reader) :
    lines ((execution env files arguments).run node s).notes =
      Command.linesOf node s
        (Command.execute (context arguments settings) (.ok reader) arguments.command) := by
  rw [execution_of_ok (settings_of_resolves hsettings), build_of_builds hbuilds]
  exact lines_withSettings

theorem runs_execution_of_unbuilt {e : ProbeError} (hsettings : Resolves files arguments settings)
    (h : Unbuilt files settings e) : Runs node s (execution env files arguments) 1 [] s := by
  have hcommand : Runs node s
      (Command.execute (context arguments settings)
        ((build settings (settings.abiPath.map files)).map (·.2)) arguments.command)
      (.of (.error e)) [] s := by
    rw [build_of_unbuilt h]
    exact Command.runs_execute_of_error _ _ _
  exact runs_execution (settings_of_resolves hsettings) hcommand

theorem runs_execution_of_misconfigured {fault : Fault}
    (h : Misconfigured files arguments fault) :
    Runs node s (execution env files arguments) 1 [] s := by
  cases h with
  | settings h => exact runs_execution_of_error (settings_of_unresolved h)
  | reader hsettings h => exact runs_execution_of_unbuilt hsettings h

end Runs

end Program

/-!
# A program that can start

A node on the same machine is all that it takes: everything else is built in.
-/

/-- A node on the same machine. -/
def Endpoint.loopback : Endpoint :=
  ⟨"http://[::1]:8545",
    ⟨"http", none, some (.address6 [0, 0, 0, 0, 0, 0, 0, 1]), some 8545, "/", none, none⟩⟩

/-- Arguments that name the node on the same machine. -/
def Arguments.loopback (json : Bool) (command : Command) : Arguments :=
  ⟨{ rpcUrl := some Endpoint.loopback.given }, none, json, false, false, command⟩

namespace Program

/-- The settings that name the node on the same machine. -/
def loopbackSettings : Settings :=
  .resolve {} { rpcUrl := some Endpoint.loopback.given }

theorem resolves_loopback (files : String -> Except String String) (json : Bool)
    (command : Command) : Resolves files (.loopback json command) loopbackSettings :=
  .withoutFile rfl

theorem builds_loopback (files : String -> Except String String) :
    Builds files loopbackSettings .loopback ⟨.embedded, .precompile⟩ where
  interface := .builtIn rfl
  url := by decide +kernel
  address := by decide +kernel

end Program

end FixtureProbe
