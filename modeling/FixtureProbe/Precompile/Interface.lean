import FixtureProbe.Abi.Description
import FixtureProbe.Precompile.Fields
import FixtureProbe.Precompile.ProbeError

/-!
# The interface of the precompile

An interface knows every function of a description, and which of them answer the four calls. It
turns calls into call data and back, and answers into records.
-/

namespace FixtureProbe

def Interface.requiredNames : List String :=
  ["getMatch", "getLeague", "getTeam", "getUnfinishedMatches"]

def Interface.find? (functions : List Abi.Function) (name : String) : Option Abi.Function :=
  functions.find? (·.name = name)

/-- A usable description: all its functions, sorted by name, and the four that the probe calls, each of
which is the first with its name. -/
structure Interface where
  functions : List Abi.Function
  getMatch : Abi.Function
  getLeague : Abi.Function
  getTeam : Abi.Function
  getUnfinishedMatches : Abi.Function
  find_getMatch : Interface.find? functions "getMatch" = some getMatch
  find_getLeague : Interface.find? functions "getLeague" = some getLeague
  find_getTeam : Interface.find? functions "getTeam" = some getTeam
  find_getUnfinishedMatches :
    Interface.find? functions "getUnfinishedMatches" = some getUnfinishedMatches

namespace Interface

/-!
# Loading
-/

def require (functions : List Abi.Function) (name : String) :
    Except String { f : Abi.Function // find? functions name = some f } :=
  match (find? functions name).attach with
  | some found => .ok found
  | none => .error ("function '" ++ name ++ "' is missing")

section Require

variable {functions : List Abi.Function} {name : String}

theorem require_of_find {f : Abi.Function} (h : find? functions name = some f) :
    require functions name = .ok ⟨f, h⟩ := by
  unfold require
  split
  · next found hfound =>
    rcases found with ⟨found, hfind⟩
    cases h.symm.trans hfind
    rfl
  · next hnone =>
    rw [Option.attach_eq_none_iff, h] at hnone
    cases hnone

theorem require_of_not_found (h : find? functions name = none) :
    require functions name = .error ("function '" ++ name ++ "' is missing") := by
  unfold require
  split
  · next found hfound => cases h.symm.trans found.2
  · rfl

end Require

/-- The interface with the given functions; the failure names the first missing one. -/
def ofFunctions (functions : List Abi.Function) : Except String Interface := do
  let functions := Abi.Description.sortByName functions
  let ⟨getMatch, find_getMatch⟩ ← require functions "getMatch"
  let ⟨getLeague, find_getLeague⟩ ← require functions "getLeague"
  let ⟨getTeam, find_getTeam⟩ ← require functions "getTeam"
  let ⟨getUnfinishedMatches, find_getUnfinishedMatches⟩ ← require functions "getUnfinishedMatches"
  return {
    functions, getMatch, getLeague, getTeam, getUnfinishedMatches,
    find_getMatch, find_getLeague, find_getTeam, find_getUnfinishedMatches }

theorem ofFunctions_of_sorted {functions : List Abi.Function} {interface : Interface}
    (h : Abi.Description.sortByName functions = interface.functions) :
    ofFunctions functions = .ok interface := by
  rw [ofFunctions, h, require_of_find interface.find_getMatch,
    require_of_find interface.find_getLeague, require_of_find interface.find_getTeam,
    require_of_find interface.find_getUnfinishedMatches]
  rfl

inductive LoadError where
  | malformed
  | missing (reason : String)

def LoadError.reason : LoadError -> String
  | .malformed => "<json>"
  | .missing reason => reason

def parse (text : String) : Except LoadError Interface :=
  match (Json.parse? text).bind Abi.Description.functions? with
  | none => .error .malformed
  | some functions => (ofFunctions functions).mapError .missing

def load (text : String) : Except ProbeError Interface :=
  (parse text).mapError fun error => .interface error.reason

theorem load_of_functions {text : String} {functions : List Abi.Function} {interface : Interface}
    (hread : (Json.parse? text).bind Abi.Description.functions? = some functions)
    (hsorted : Abi.Description.sortByName functions = interface.functions) :
    load text = .ok interface := by
  rw [load, parse, hread]
  dsimp only
  rw [ofFunctions_of_sorted hsorted]
  rfl

def embeddedLines : List String := [
  "[",
  "  \x7b",
  "    \"type\": \"function\",",
  "    \"name\": \"getMatch\",",
  "    \"stateMutability\": \"view\",",
  "    \"inputs\": [",
  "      \x7b \"name\": \"matchId\", \"type\": \"uint256\", \"internalType\": \"uint256\" \x7d",
  "    ],",
  "    \"outputs\": [",
  "      \x7b",
  "        \"name\": \"\",",
  "        \"type\": \"tuple\",",
  "        \"internalType\": \"struct MatchData\",",
  "        \"components\": [",
  "          \x7b \"name\": \"id\", \"type\": \"uint256\", \"internalType\": \"uint256\" \x7d,",
  "          \x7b \"name\": \"leagueId\", \"type\": \"uint256\", \"internalType\": \"uint256\" \x7d,",
  "          \x7b \"name\": \"name\", \"type\": \"string\", \"internalType\": \"string\" \x7d,",
  "          \x7b \"name\": \"time\", \"type\": \"string\", \"internalType\": \"string\" \x7d,",
  "          \x7b \"name\": \"homeId\", \"type\": \"uint256\", \"internalType\": \"uint256\" \x7d,",
  "          \x7b \"name\": \"awayId\", \"type\": \"uint256\", \"internalType\": \"uint256\" \x7d,",
  "          \x7b \"name\": \"homeScore\", \"type\": \"uint256\", \"internalType\": \"uint256\" \x7d,",
  "          \x7b \"name\": \"awayScore\", \"type\": \"uint256\", \"internalType\": \"uint256\" \x7d,",
  "          \x7b \"name\": \"homeName\", \"type\": \"string\", \"internalType\": \"string\" \x7d,",
  "          \x7b \"name\": \"awayName\", \"type\": \"string\", \"internalType\": \"string\" \x7d,",
  "          \x7b \"name\": \"started\", \"type\": \"bool\", \"internalType\": \"bool\" \x7d,",
  "          \x7b \"name\": \"finished\", \"type\": \"bool\", \"internalType\": \"bool\" \x7d,",
  "          \x7b \"name\": \"cancelled\", \"type\": \"bool\", \"internalType\": \"bool\" \x7d",
  "        ]",
  "      \x7d",
  "    ]",
  "  \x7d,",
  "  \x7b",
  "    \"type\": \"function\",",
  "    \"name\": \"getLeague\",",
  "    \"stateMutability\": \"view\",",
  "    \"inputs\": [",
  "      \x7b \"name\": \"leagueId\", \"type\": \"uint256\", \"internalType\": \"uint256\" \x7d",
  "    ],",
  "    \"outputs\": [",
  "      \x7b",
  "        \"name\": \"\",",
  "        \"type\": \"tuple\",",
  "        \"internalType\": \"struct LeagueData\",",
  "        \"components\": [",
  "          \x7b \"name\": \"id\", \"type\": \"uint256\", \"internalType\": \"uint256\" \x7d,",
  "          \x7b \"name\": \"name\", \"type\": \"string\", \"internalType\": \"string\" \x7d,",
  "          \x7b \"name\": \"groupName\", \"type\": \"string\", \"internalType\": \"string\" \x7d",
  "        ]",
  "      \x7d",
  "    ]",
  "  \x7d,",
  "  \x7b",
  "    \"type\": \"function\",",
  "    \"name\": \"getTeam\",",
  "    \"stateMutability\": \"view\",",
  "    \"inputs\": [",
  "      \x7b \"name\": \"teamId\", \"type\": \"uint256\", \"internalType\": \"uint256\" \x7d",
  "    ],",
  "    \"outputs\": [",
  "      \x7b",
  "        \"name\": \"\",",
  "        \"type\": \"tuple\",",
  "        \"internalType\": \"struct TeamData\",",
  "        \"components\": [",
  "          \x7b \"name\": \"id\", \"type\": \"uint256\", \"internalType\": \"uint256\" \x7d,",
  "          \x7b \"name\": \"name\", \"type\": \"string\", \"internalType\": \"string\" \x7d",
  "        ]",
  "      \x7d",
  "    ]",
  "  \x7d,",
  "  \x7b",
  "    \"type\": \"function\",",
  "    \"name\": \"getUnfinishedMatches\",",
  "    \"stateMutability\": \"view\",",
  "    \"inputs\": [],",
  "    \"outputs\": [",
  "      \x7b \"name\": \"\", \"type\": \"uint256[]\", \"internalType\": \"uint256[]\" \x7d",
  "    ]",
  "  \x7d",
  "]",
  ""]

def embeddedText : String :=
  String.intercalate "\n" embeddedLines

def embedded : Interface :=
  let fixture : Abi.Function := {
    name := "getMatch"
    inputs := [.uint 256]
    outputs := [.tuple [.uint 256, .uint 256, .string, .string, .uint 256, .uint 256, .uint 256,
      .uint 256, .string, .string, .bool, .bool, .bool]] }
  let league : Abi.Function := {
    name := "getLeague"
    inputs := [.uint 256]
    outputs := [.tuple [.uint 256, .string, .string]] }
  let team : Abi.Function := {
    name := "getTeam"
    inputs := [.uint 256]
    outputs := [.tuple [.uint 256, .string]] }
  let unfinished : Abi.Function := {
    name := "getUnfinishedMatches"
    inputs := []
    outputs := [.array (.uint 256)] }
  ⟨[league, fixture, team, unfinished], fixture, league, team, unfinished, rfl, rfl, rfl, rfl⟩

/-!
# Functions
-/

/-- The names of all functions, sorted; a name is repeated for each function that bears it. -/
def functionNames (interface : Interface) : List String :=
  interface.functions.map (·.name)

def lookup (interface : Interface) (name : String) : Except ProbeError Abi.Function :=
  match find? interface.functions name with
  | some f => .ok f
  | none => .error (.interface ("Invalid name: " ++ name))

def function (interface : Interface) : Operation -> Abi.Function
  | .getMatch _ => interface.getMatch
  | .getLeague _ => interface.getLeague
  | .getTeam _ => interface.getTeam
  | .getUnfinishedMatches => interface.getUnfinishedMatches

theorem lookup_name (interface : Interface) (op : Operation) :
    interface.lookup op.name = .ok (interface.function op) := by
  unfold lookup
  cases op with
  | getMatch id => rw [Operation.name, interface.find_getMatch, function]
  | getLeague id => rw [Operation.name, interface.find_getLeague, function]
  | getTeam id => rw [Operation.name, interface.find_getTeam, function]
  | getUnfinishedMatches => rw [Operation.name, interface.find_getUnfinishedMatches, function]

def required (interface : Interface) : List (String × Abi.Function) :=
  [("getMatch", interface.getMatch), ("getLeague", interface.getLeague),
   ("getTeam", interface.getTeam), ("getUnfinishedMatches", interface.getUnfinishedMatches)]

theorem lookup_of_mem_required (interface : Interface) :
    forall entry, entry ∈ interface.required -> interface.lookup entry.1 = .ok entry.2 := by
  simp only [required, List.forall_mem_cons, List.not_mem_nil, false_implies, implies_true, and_true]
  exact ⟨interface.lookup_name (.getMatch 0), interface.lookup_name (.getLeague 0),
    interface.lookup_name (.getTeam 0), interface.lookup_name .getUnfinishedMatches⟩

/-!
# Call data
-/

def arguments (op : Operation) : List Abi.Token :=
  op.argument.toList.map fun id => .uint (Word.ofUInt64 id)

def encode (interface : Interface) (op : Operation) : Except ProbeError Bytes := do
  let f ← interface.lookup op.name
  (f.encodeInput (arguments op)).mapError fun error => .ofOperation op error.message

theorem encode_eq (interface : Interface) (op : Operation) :
    interface.encode op =
      ((interface.function op).encodeInput (arguments op)).mapError fun error =>
        .ofOperation op error.message := by
  rw [encode, interface.lookup_name]
  rfl

def firstId (name : String) : List Abi.Token -> Except String (Option UInt64)
  | .uint value :: _ =>
      match value.toUInt64? with
      | some id => .ok (some id)
      | none => .error (name ++ " argument exceeds u64")
  | _ => .ok none

/-- The call of the function `f`, known as `name`, with the given encoded arguments. -/
def decodeArguments (name : String) (f : Abi.Function) (data : Bytes) :
    Except String Operation := do
  let tokens ← (f.decodeInput data).mapError (·.message)
  match Operation.ofName? name (← firstId name tokens) with
  | some op => return op
  | none => throw ("unexpected arguments for " ++ name)

def recognise (interface : Interface) (selector data : Bytes) :
    (names : List String) -> Except ProbeError Operation
  | [] => .error (.interface ("unknown selector " ++ Bytes.toHex selector))
  | name :: names => do
      let f ← interface.lookup name
      if f.selector = selector then (decodeArguments name f data).mapError .interface
      else interface.recognise selector data names

def decodeCall (interface : Interface) (calldata : Bytes) : Except ProbeError Operation :=
  if calldata.length < 4 then .error (.interface "calldata shorter than a selector")
  else interface.recognise (calldata.take 4) (calldata.drop 4) requiredNames

theorem recognise_eq (interface : Interface) (selector data : Bytes)
    {entries : List (String × Abi.Function)}
    (h : forall entry, entry ∈ entries -> interface.lookup entry.1 = .ok entry.2) :
    interface.recognise selector data (entries.map (·.1)) =
      match entries.find? (·.2.selector = selector) with
      | some (name, f) => (decodeArguments name f data).mapError .interface
      | none => .error (.interface ("unknown selector " ++ Bytes.toHex selector)) := by
  induction entries with
  | nil => rfl
  | cons entry entries ih =>
      have hlookup := h entry List.mem_cons_self
      have hrest := ih fun entry hentry => h entry (List.mem_cons_of_mem _ hentry)
      rw [List.map_cons, recognise, hlookup, hrest]
      by_cases hselector : entry.2.selector = selector
      · have hfound : (entry :: entries).find? (·.2.selector = selector) = some entry :=
          List.find?_cons_of_pos (by simpa using hselector)
        rw [hfound]
        exact if_pos hselector
      · have hskipped : (entry :: entries).find? (·.2.selector = selector) =
            entries.find? (·.2.selector = selector) :=
          List.find?_cons_of_neg (by simpa using hselector)
        rw [hskipped]
        exact if_neg hselector

theorem decodeCall_eq (interface : Interface) (calldata : Bytes) :
    interface.decodeCall calldata =
      if calldata.length < 4 then .error (.interface "calldata shorter than a selector")
      else match interface.required.find? (·.2.selector = calldata.take 4) with
        | some (name, f) => (decodeArguments name f (calldata.drop 4)).mapError .interface
        | none => .error (.interface ("unknown selector " ++ Bytes.toHex (calldata.take 4))) := by
  rw [decodeCall, ← interface.recognise_eq _ _ interface.lookup_of_mem_required]
  rfl

/-!
# Answers
-/

def decodeAnswer (interface : Interface) (op : Operation)
    (read : List Abi.Token -> Except ReadError α) (data : Bytes) : Except ProbeError α := do
  let f ← interface.lookup op.name
  ((f.decodeOutput data).mapError .codec >>= read).mapError fun error =>
    .ofOperation op error.message

theorem decodeAnswer_eq (interface : Interface) (op : Operation)
    (read : List Abi.Token -> Except ReadError α) (data : Bytes) :
    interface.decodeAnswer op read data =
      (((interface.function op).decodeOutput data).mapError .codec >>= read).mapError fun error =>
        .ofOperation op error.message := by
  rw [decodeAnswer, interface.lookup_name]
  rfl

def decodeMatch (interface : Interface) (id : UInt64) (data : Bytes) : Except ProbeError Match :=
  interface.decodeAnswer (.getMatch id) (Fields.read 13 FieldReader.fixture) data

def decodeLeague (interface : Interface) (id : UInt64) (data : Bytes) : Except ProbeError League :=
  interface.decodeAnswer (.getLeague id) (Fields.read 3 FieldReader.league) data

def decodeTeam (interface : Interface) (id : UInt64) (data : Bytes) : Except ProbeError Team :=
  interface.decodeAnswer (.getTeam id) (Fields.read 2 FieldReader.team) data

def decodeUnfinished (interface : Interface) (data : Bytes) : Except ProbeError (List UInt64) :=
  interface.decodeAnswer .getUnfinishedMatches Fields.ids data

end Interface

end FixtureProbe
