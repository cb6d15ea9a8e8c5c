import FixtureProbe.Command.Mistake

/-!
# What is given on a command line

Switches with their values, and ids. A value that is a word of its own, and an id, wait: they are
looked at when the next switch is taken, or at the end.
-/

namespace FixtureProbe

/-- What waits to be looked at. -/
inductive Pending where
  | nothing
  | switch (switch : Switch) (value : Option String)
  | ids (words : List String)

structure Given where
  /-- Switches with their values; those that take none have an empty one. -/
  switches : List (Switch × String) := []
  ids : List UInt64 := []
  pending : Pending := .nothing

namespace Given

def value? (given : Given) (switch : Switch) : Option String :=
  given.switches.lookup switch

def fail {α : Type} (command : Option CommandName) (mistake : Mistake)
    (tip : Option Tip) : Except Refusal α :=
  .error (.mistake { mistake, topic := .ofCommand command, tip })

/-!
# Looking at values
-/

def numberMistake? (switch : Switch) (value : String) : Option Mistake :=
  match Decimal.signed value with
  | .error e => some (.invalidValue value switch.title e.message)
  | .ok n =>
      if 0 ≤ n ∧ n < UInt32.size then none
      else some (.invalidValue value switch.title (toString n ++ " is not in 0..=4294967295"))

def valueMistake? (switch : Switch) (value : String) : Option Mistake :=
  match switch with
  | .iterations => numberMistake? switch value
  | .abi | .config => if value = "" then some (.missingValue switch) else none
  | _ => none

def check (command : Option CommandName) (switch : Switch) (value : String) :
    Except Refusal Unit :=
  match valueMistake? switch value with
  | some mistake => fail command mistake none
  | none => .ok ()

def put (command : Option CommandName) (given : Given) (switch : Switch) (value : String) :
    Except Refusal Given := do
  if (given.value? switch).isSome then fail command (.repeated switch) none
  check command switch value
  return { given with switches := given.switches ++ [(switch, value)] }

def readId (command : CommandName) (word : String) : Except Refusal UInt64 :=
  match Decimal.unsigned word with
  | .ok id => .ok id
  | .error e =>
      let place := ((IdCount.ofCommand command).title?).getD ""
      fail (some command) (.invalidValue word place e.message) none

def settle (command : Option CommandName) (given : Given) : Except Refusal Given := do
  let settled := { given with pending := .nothing }
  match given.pending, command with
  | .switch switch none, _ => fail command (.missingValue switch) none
  | .switch switch (some value), _ => settled.put command switch value
  | .ids words, some command =>
      return { settled with ids := given.ids ++ (← words.mapM (readId command)) }
  | _, _ => return settled

/-- The switches that are in use, once what waits has been looked at, whether it is good or not. -/
def switchesInUse (given : Given) : List Switch :=
  let known := given.switches.map (·.1)
  match given.pending with
  | .switch switch (some _) =>
      if known.contains switch then known.erase switch else known ++ [switch]
  | _ => known

def hasIds (given : Given) : Bool :=
  match given.pending with
  | .ids _ => true
  | _ => !given.ids.isEmpty

/-!
# Taking words
-/

def take (command : Option CommandName) (given : Given) (switch : Switch) (value : String) :
    Except Refusal Given := do
  let given ← given.settle command
  match switch with
  | .help => throw (.help (.ofCommand command))
  | .version => throw (.version command)
  | _ => given.put command switch value

def await (command : Option CommandName) (given : Given) (switch : Switch) :
    Except Refusal Given := do
  return { ← given.settle command with pending := .switch switch none }

def isAwaiting (given : Given) : Bool :=
  match given.pending with
  | .switch _ none => true
  | _ => false

def supply (given : Given) (value : String) : Given :=
  match given.pending with
  | .switch switch _ => { given with pending := .switch switch (some value) }
  | _ => given

def isFull (command : Option CommandName) (given : Given) : Bool :=
  match (command.map IdCount.ofCommand).getD .none, given.pending with
  | .none, _ => true
  | .any, _ => false
  | .atMostOne, .ids _ => true
  | .atMostOne, _ => !given.ids.isEmpty

def takeId (command : Option CommandName) (given : Given) (word : String) :
    Except Refusal Given := do
  match given.pending with
  | .ids words => return { given with pending := .ids (words ++ [word]) }
  | _ => return { ← given.settle command with pending := .ids [word] }

/--
Looks at what waits at the end, and at the environment: a variable must have a good value, unless
its switch was given.
-/
def finish (command : Option CommandName) (env : String -> Option String) (given : Given) :
    Except Refusal Given := do
  let given ← given.settle command
  for switch in Switch.everywhere do
    if (given.value? switch).isNone then
      match switch.environmentName?.bind env with
      | some value => check command switch value
      | none => pure ()
  return given

end Given
end FixtureProbe
