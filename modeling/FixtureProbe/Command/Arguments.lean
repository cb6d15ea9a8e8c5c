import FixtureProbe.Command.Basic
import FixtureProbe.Command.Given
import FixtureProbe.Settings
import FixtureProbe.Text.Similarity

/-!
# Reading the command line

Switches may stand before and after the name of the command. A switch given after it counts more
than the same one given before it, and one given at all more than its environment variable. Reading
stops at the first thing that is wrong, and at the first question for help or for the version; what
stands behind the command is looked at before what still waits in front of it.
-/

namespace FixtureProbe

structure Arguments where
  overrides : SettingsLayer
  config : Option String
  json : Bool
  verbose : Bool
  logJson : Bool
  command : Command

namespace Arguments

/-!
# Switches
-/

/-- The switch of a command, or of those before any command, whose name is most like a word. -/
def nearest? (command : Option CommandName) (name : String) : Option Switch :=
  let switches := Switch.available command
  match (Similarity.similar name (switches.map (·.long))).getLast? with
  | some long => switches.find? (·.long = long)
  | none => none

def nearestLater? (name : String) (rest : List String) : Option (CommandName × Switch) :=
  rest.findSome? fun word => do
    let command ← CommandName.ofText? word
    return (command, ← nearest? (some command) name)

def takesIds (command : Option CommandName) : Bool :=
  command.any fun name => IdCount.ofCommand name ≠ .none

/-- What a word may have been meant for that begins with a hyphen and is no switch. -/
def hyphenTip? (command : Option CommandName) (word : String) : Option Tip :=
  if takesIds command then some (.behindHyphens word) else none

def failLong {α : Type} (command : Option CommandName) (given : Given) (name : String)
    (rest : List String) : Except Refusal α :=
  let nearest := nearest? command name
  let later := if command.isNone then nearestLater? name rest else none
  let tip := match nearest, later with
    | some switch, _ => some (.similarSwitch ("--" ++ switch.long))
    | none, some (name, switch) => some (.switchOf name.text ("--" ++ switch.long))
    | none, none => hyphenTip? command ("--" ++ name)
  let used := given.switchesInUse
  let switches := used ++ nearest.toList.filter (!used.contains ·)
  .error (.mistake {
    mistake := .unexpected ("--" ++ name)
    topic := .ofCommand command
    switches
    hasIds := given.hasIds
    tip })

def failValue {α : Type} (command : Option CommandName) (given : Given) (switch : Switch)
    (value : String) : Except Refusal α :=
  let used := given.switches.map (·.1)
  .error (.mistake {
    mistake := .uselessValue switch value
    topic := .ofCommand command
    switches := used ++ [switch].filter (!used.contains ·)
    hasIds := !given.ids.isEmpty })

def readLong (command : Option CommandName) (given : Given) (word : List Char)
    (rest : List String) : Except Refusal Given :=
  let name := word.takeWhile (· ≠ '=')
  match (Switch.available command).find? (·.long.toList = name) with
  | none => failLong command given (String.ofList name) rest
  | some switch =>
      match word.dropWhile (· ≠ '='), switch.value? with
      | [], none => given.take command switch ""
      | [], some _ => given.await command switch
      | _ :: value, none => failValue command given switch (String.ofList value)
      | _ :: value, some _ => given.take command switch (String.ofList value)

def readShort (command : Option CommandName) (given : Given) : List Char -> Except Refusal Given
  | [] => .ok given
  | c :: rest => do
      match (Switch.available command).find? (·.short? = some c) with
      | none =>
          let word := "-" ++ String.singleton c
          Given.fail command (.unexpected word) (hyphenTip? command word)
      | some switch =>
          if switch.value?.isNone then readShort command (← given.take command switch "") rest
          else match rest with
            | [] => given.await command switch
            | '=' :: value | value => given.take command switch (String.ofList value)

/-- Reads a word that is not the name of a command, and not hidden behind two hyphens. -/
def readWord (command : Option CommandName) (given : Given) (word : String)
    (rest : List String) : Option (Except Refusal Given) :=
  match word.toList with
  | '-' :: '-' :: name => some (readLong command given name rest)
  | '-' :: c :: rest => some (readShort command given (c :: rest))
  | _ => if given.isAwaiting then some (.ok (given.supply word)) else none

/-!
# Commands and ids
-/

def commandWords : List String :=
  CommandName.all.map (·.text) ++ [Help.helpCommand]

def topicOf? (word : String) : Option Help.Topic :=
  match CommandName.ofText? word with
  | some command => some (.command command)
  | none => if word = Help.helpCommand then some .help else none

def helpFor : List String -> Refusal
  | [] => .help .program
  | word :: rest =>
      match topicOf? word, rest with
      | none, _ => .mistake { mistake := .unknownCommand word, topic := .program }
      | some topic, [] => .help topic
      | some topic, next :: _ => .mistake { mistake := .unknownCommand next, topic }

def failBefore {α : Type} (hidden : Bool) (word : String) : Except Refusal α :=
  if hidden ∧ word ∈ commandWords then
    Given.fail none (.unexpected word) (some (.withoutHyphens word))
  else
    let names := Similarity.similar word commandWords
    let tip := if names = [] then none else some (.similarCommands names)
    Given.fail none (.unknownCommand word) tip

def readId (command : CommandName) (given : Given) (word : String) : Except Refusal Given :=
  if given.isFull (some command) then Given.fail (some command) (.unexpected word) none
  else given.takeId (some command) word

/-!
# All words
-/

/-- Reads the words behind the name of a command; behind two hyphens there are only ids. -/
def readAfter (command : CommandName) : (hidden : Bool) -> Given -> List String ->
    Except Refusal Given
  | _, given, [] => .ok given
  | true, given, word :: rest => do
      readAfter command true (← readId command given word) rest
  | false, given, word :: rest => do
      if word = "--" then readAfter command true given rest
      else match readWord (some command) given word rest with
        | some read => readAfter command false (← read) rest
        | none => readAfter command false (← readId command given word) rest

/--
Reads the words up to the name of the command; the result has that name and the words behind it.
There is nothing to be read behind two hyphens.
-/
def readBefore : Given -> List String -> Except Refusal (Given × Option (CommandName × List String))
  | given, [] => .ok (given, none)
  | given, word :: rest => do
      if !given.isAwaiting ∧ word = Help.helpCommand then throw (helpFor rest)
      match if given.isAwaiting then none else CommandName.ofText? word with
      | some command => return (given, some (command, rest))
      | none =>
          if word = "--" then
            match rest with
            | [] => return (given, none)
            | next :: _ => failBefore true next
          else match readWord none given word rest with
            | some read => readBefore (← read) rest
            | none => failBefore false word

/-!
# Arguments
-/

def commandOf : CommandName -> List UInt64 -> Command
  | .run, _ => .run
  | .probe, _ => .probe
  | .debug, _ => .debug
  | .unfinished, _ => .unfinished
  | .fixture, ids => .fixture ids.head?
  | .league, ids => .league ids.head?
  | .team, ids => .team ids.head?
  | .gas, _ => .gas
  | .raw, _ => .raw
  | .bench, _ => .bench
  | .cross, ids => .cross ids

def ofGiven (env : String -> Option String) (before : Given) (name : CommandName)
    (after : Given) : Arguments :=
  let given (switch : Switch) : Option String := after.value? switch <|> before.value? switch
  let value (switch : Switch) : Option String := given switch <|> switch.environmentName?.bind env
  {
    overrides := {
      rpcUrl := value .rpcUrl
      precompileAddress := value .address
      abiPath := value .abi
      iterations := (given .iterations).bind fun word =>
        (Decimal.signed word).toOption.map fun n => .ofNat n.toNat }
    config := value .config
    json := (given .json).isSome
    verbose := (given .verbose).isSome
    logJson := (given .logJson).isSome
    command := commandOf name after.ids }

def isNothing (env : String -> Option String) (given : Given) : Bool :=
  given.switches.isEmpty &&
    Switch.everywhere.all fun switch => (switch.environmentName?.bind env).isNone

def parse (env : String -> Option String) (words : List String) :
    Except Refusal Arguments := do
  match ← readBefore {} words with
  | (before, some (name, rest)) =>
      let after ← (← readAfter name false {} rest).finish (some name) env
      return ofGiven env (← before.finish none env) name after
  | (before, none) =>
      let before ← before.finish none env
      if isNothing env before then throw .nothing else Given.fail none .noCommand none

end Arguments
end FixtureProbe
