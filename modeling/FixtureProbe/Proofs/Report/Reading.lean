import FixtureProbe.Report.Document
import Mathlib.Data.List.Forall2

/-!
# Reading documents

A program that is given a document reads it member by member: it knows their names, and what each of
them holds. This module says how the documents are read, without a look at how they are written, and
shows that whatever is written is read back. Only durations are not: what is kept of them is a number
of milliseconds.
-/

namespace FixtureProbe

variable {α β : Type}

/-!
# Values
-/

namespace Json

/-- The names of the members of an object, in order. -/
@[simp]
def names : Json -> List String
  | .object members => members.map (·.1)
  | _ => []

/-- Turns a document away that has other members, or has them in another order. -/
@[simp]
def expect? (expected : List String) (document : Json) : Option Unit :=
  if document.names = expected then some () else none

/-- The first value under a name. -/
@[simp]
def member? (name : String) : Json -> Option Json
  | .object members => (members.find? (·.1 = name)).map (·.2)
  | _ => none

/-- Reads the value under a name. -/
@[simp]
def at? (read : Json -> Option α) (name : String) (document : Json) : Option α :=
  (document.member? name).bind read

@[simp]
def flag? : Json -> Option Bool
  | .bool b => some b
  | _ => none

@[simp]
def text? : Json -> Option String
  | .string s => some s
  | _ => none

@[simp]
def natural? : Json -> Option Nat
  | .number (.natural n) => some n
  | _ => none

def id? : Json -> Option UInt64
  | .number (.natural n) => if n < UInt64.size then some (.ofNat n) else none
  | _ => none

def number? : Json -> Option Float
  | .number (.double x) => some x
  | _ => none

/-- Reads all items of an array. -/
def list? (read : Json -> Option α) : Json -> Option (List α)
  | .array items => items.mapM read
  | _ => none

/-- Reads a value that may be missing. -/
def optional? (read : Json -> Option α) : Json -> Option (Option α)
  | .null => some none
  | value => (read value).map some

@[simp]
theorem id?_uint64 (id : UInt64) : id? (.uint64 id) = some id := by
  rw [uint64, nat, id?, if_pos id.toNat_lt, UInt64.ofNat_toNat]

theorem list?_list_eq_map {write : α -> Json} {read : Json -> Option β} {f : α -> β}
    (h : forall a, read (write a) = some (f a)) (as : List α) :
    list? read (list write as) = some (as.map f) := by
  change (as.map write).mapM read = some (as.map f)
  induction as with
  | nil => rfl
  | cons a as ih =>
      rw [List.map_cons, List.mapM_cons, h, ih]
      rfl

@[simp]
theorem list?_list {write : α -> Json} {read : Json -> Option α}
    (h : forall a, read (write a) = some a) (as : List α) :
    list? read (list write as) = some as := by
  rw [list?_list_eq_map (f := id) h, List.map_id]

@[simp]
theorem optional?_id (id : Option UInt64) : optional? id? (.ofOption .uint64 id) = some id := by
  cases id with
  | none => rfl
  | some id => exact congrArg (Option.map some) (id?_uint64 id)

end Json

/-!
# Words, addresses and calls
-/

/-- The word that hexadecimal digits spell after `0x`. -/
def Word.ofQuantity? (text : String) : Option Word := do
  let digits ← (Bytes.dropHexMark text.toList).mapM Bytes.hexValue?
  return .ofNat 256 (digits.foldl (fun n d => n * 16 + d) 0)

/-- The address whose bytes hexadecimal digits spell after `0x`. -/
def Address.ofText? (text : String) : Option Address :=
  (Bytes.ofHex? text).map fun bytes => ⟨.ofNat 160 (Bytes.toNat bytes)⟩

/-- The call that is written as a name with its argument between parentheses. -/
def Operation.ofText? (text : String) : Option Operation :=
  let name := text.toList.takeWhile (· ≠ '(')
  let argument := (text.toList.drop (name.length + 1)).dropLast
  ofName? (String.ofList name)
    (if argument = [] then none else some (.ofNat (Nat.ofDigitChars 10 argument 0)))

theorem Word.hexValues_toDigits (n : Nat) : exists digits,
    (Nat.toDigits 16 n).mapM Bytes.hexValue? = some digits ∧
      digits.foldl (fun n d => n * 16 + d) 0 = n := by
  have hvalue {d : Nat} (hd : d < 16) : Bytes.hexValue? d.digitChar = some d := by
    have hall : forall d : Fin 16, Bytes.hexValue? (Nat.digitChar d) = some d.val := by
      decide
    exact hall ⟨d, hd⟩
  -- The digits in front of the last one spell a smaller number.
  induction n using Nat.strongRecOn with
  | ind n ih =>
      by_cases hlt : n < 16
      · refine ⟨[n], ?_, Nat.zero_add n⟩
        rw [Nat.toDigits_of_lt_base hlt, List.mapM_cons, hvalue hlt]
        rfl
      · rcases ih (n / 16) (by omega) with ⟨digits, hdigits, hspells⟩
        refine ⟨digits ++ [n % 16], ?_, ?_⟩
        · rw [Nat.toDigits_of_base_le (by decide) (by omega), List.mapM_append, hdigits,
            List.mapM_cons, hvalue (Nat.mod_lt n (by decide))]
          rfl
        · rw [List.foldl_append, hspells]
          exact Nat.div_add_mod' n 16

theorem Word.ofQuantity?_quantity (w : Word) : ofQuantity? w.quantity = some w := by
  rcases hexValues_toDigits w.toNat with ⟨digits, hdigits, hspells⟩
  have htext : Bytes.dropHexMark w.quantity.toList = Nat.toDigits 16 w.toNat := by
    rw [quantity, hexNat, String.toList_append, String.toList_ofList,
      String.toList_ofList]
    rfl
  rw [ofQuantity?, htext, hdigits]
  change some (BitVec.ofNat 256 (digits.foldl (fun n d => n * 16 + d) 0)) = some w
  rw [hspells, BitVec.ofNat_toNat, BitVec.setWidth_eq]

theorem Address.ofText?_text (a : Address) : ofText? a.text = some a := by
  have hlt : a.value.toNat < 2 ^ 160 := a.value.isLt
  have hvalue : BitVec.ofNat 160 (Bytes.toNat a.toBytes) = a.value := by
    apply BitVec.eq_of_toNat_eq
    rw [toBytes, Bytes.toNat_ofNat, BitVec.toNat_ofNat]
    simp only [Nat.pow_eq] at hlt ⊢
    omega
  rw [ofText?, text, Bytes.ofHex?_toHex, Option.map_some, hvalue]

theorem Operation.ofText?_text (op : Operation) : ofText? op.text = some op := by
  have hname : op.name.toList.all (· ≠ '(') = true := by
    cases op with
    | _ =>
        rw [name]
        decide
  have htext : op.text.toList =
      op.name.toList ++ '(' :: ((argumentText op.argument).toList ++ [')']) := by
    simp only [text, String.toList_append, List.append_assoc]
    rfl
  have htake : op.text.toList.takeWhile (· ≠ '(') = op.name.toList := by
    rw [htext, List.takeWhile_append_of_pos (List.all_eq_true.mp hname)]
    exact List.append_nil _
  have hdrop : (op.text.toList.drop (op.name.toList.length + 1)).dropLast =
      (argumentText op.argument).toList := by
    rw [htext, ← List.drop_drop, List.drop_left]
    exact List.dropLast_concat
  have hargument : (if (argumentText op.argument).toList = [] then none
      else some (.ofNat (Nat.ofDigitChars 10 (argumentText op.argument).toList 0))) =
        op.argument := by
    cases op.argument with
    | none => rfl
    | some id =>
        rw [argumentText, Nat.toString_eq_ofList_toDigits, String.toList_ofList,
          if_neg Nat.toDigits_ne_nil, Nat.ofDigitChars_ten_toDigits, UInt64.ofNat_toNat]
  unfold ofText?
  dsimp only
  rw [htake, hdrop, hargument, String.ofList_toList, ofName?_name_argument]

/-!
# Failures
-/

def ProbeError.ofJson? (document : Json) : Option ProbeError := do
  match ← document.at? Json.text? "kind" with
  | "connectivity" =>
      document.expect? ["kind", "reason"]
      return .connectivity (← document.at? Json.text? "reason")
  | "lookup" =>
      document.expect? ["kind", "operation", "argument", "reason"]
      return .lookup (← document.at? Json.text? "operation")
        (← document.at? (Json.optional? Json.id?) "argument")
        (← document.at? Json.text? "reason")
  | "invalid_rpc_url" =>
      document.expect? ["kind", "url", "reason"]
      return .invalidRpcUrl (← document.at? Json.text? "url") (← document.at? Json.text? "reason")
  | "invalid_address" =>
      document.expect? ["kind", "address"]
      return .invalidAddress (← document.at? Json.text? "address")
  | "abi" =>
      document.expect? ["kind", "reason"]
      return .interface (← document.at? Json.text? "reason")
  | _ => none

/-- Reads a result: a value under `Ok`, or a failure under `Err`. -/
def Outcome.ofJson? (read : Json -> Option α) : Json -> Option (Outcome α)
  | .object [("Ok", value)] => (read value).map .ok
  | .object [("Err", error)] => (ProbeError.ofJson? error).map .error
  | _ => none

@[simp]
theorem ProbeError.ofJson?_json (e : ProbeError) : ofJson? e.json = some e := by
  cases e with
  | _ => simp [ofJson?, json, kind]

@[simp]
theorem Outcome.ofJson?_json {write : α -> Json} {read : Json -> Option α}
    (h : forall a, read (write a) = some a) (outcome : Outcome α) :
    ofJson? read (Outcome.json write outcome) = some outcome := by
  cases outcome with
  | ok a => exact congrArg (Option.map Except.ok) (h a)
  | error e => exact congrArg (Option.map Except.error) e.ofJson?_json

/-!
# Records
-/

def ChainStatus.ofJson? (document : Json) : Option ChainStatus := do
  document.expect? ["chain_id", "block_number"]
  return ⟨← document.at? Json.id? "chain_id", ← document.at? Json.id? "block_number"⟩

def Match.ofJson? (document : Json) : Option Match := do
  document.expect? ["id", "league_id", "name", "time", "home_id", "home_name", "home_score",
    "away_id", "away_name", "away_score", "started", "finished", "cancelled"]
  return {
    id := ← document.at? Json.id? "id"
    leagueId := ← document.at? Json.id? "league_id"
    name := ← document.at? Json.text? "name"
    time := ← document.at? Json.text? "time"
    homeId := ← document.at? Json.id? "home_id"
    homeName := ← document.at? Json.text? "home_name"
    homeScore := ← document.at? Json.id? "home_score"
    awayId := ← document.at? Json.id? "away_id"
    awayName := ← document.at? Json.text? "away_name"
    awayScore := ← document.at? Json.id? "away_score"
    started := ← document.at? Json.flag? "started"
    finished := ← document.at? Json.flag? "finished"
    cancelled := ← document.at? Json.flag? "cancelled" }

def League.ofJson? (document : Json) : Option League := do
  document.expect? ["id", "name", "group_name"]
  return ⟨← document.at? Json.id? "id", ← document.at? Json.text? "name",
    ← document.at? Json.text? "group_name"⟩

def Team.ofJson? (document : Json) : Option Team := do
  document.expect? ["id", "name"]
  return ⟨← document.at? Json.id? "id", ← document.at? Json.text? "name"⟩

/-- Reads an account; its members stand behind some others. -/
def AccountInfo.ofJson? (others : List String) (document : Json) : Option AccountInfo := do
  document.expect? (others ++ ["address", "code", "balance_wei"])
  return {
    address := ← Address.ofText? (← document.at? Json.text? "address")
    code := ← Bytes.ofHex? (← document.at? Json.text? "code")
    balance := ← Word.ofQuantity? (← document.at? Json.text? "balance_wei") }

def Defaults.ofJson? (document : Json) : Option Defaults := do
  document.expect? ["match_id", "league_id", "team_id"]
  return ⟨← document.at? Json.id? "match_id", ← document.at? Json.id? "league_id",
    ← document.at? Json.id? "team_id"⟩

def RawCall.ofJson? (document : Json) : Option RawCall := do
  document.expect? ["operation", "calldata", "response_len", "preview"]
  return {
    operation := ← Operation.ofText? (← document.at? Json.text? "operation")
    calldata := ← Bytes.ofHex? (← document.at? Json.text? "calldata")
    responseLength := ← document.at? Json.natural? "response_len"
    preview := ← document.at? Json.text? "preview" }

def OperationResult.ofJson? (read : Json -> Option α) (document : Json) :
    Option (OperationResult α) := do
  document.expect? ["operation", "result"]
  return ⟨← Operation.ofText? (← document.at? Json.text? "operation"),
    ← document.at? (Outcome.ofJson? read) "result"⟩

def FailedIteration.ofJson? (document : Json) : Option FailedIteration := do
  document.expect? ["iteration", "error"]
  return ⟨← document.at? Json.natural? "iteration", ← document.at? Json.text? "error"⟩

@[simp]
theorem ChainStatus.ofJson?_json (chain : ChainStatus) : ofJson? chain.json = some chain := by
  simp [ofJson?, json]

@[simp]
theorem Match.ofJson?_json (m : Match) : ofJson? m.json = some m := by
  simp [ofJson?, json]

@[simp]
theorem League.ofJson?_json (l : League) : ofJson? l.json = some l := by
  simp [ofJson?, json]

@[simp]
theorem Team.ofJson?_json (t : Team) : ofJson? t.json = some t := by
  simp [ofJson?, json]

@[simp]
theorem AccountInfo.ofJson?_json (info : AccountInfo) : ofJson? [] info.json = some info := by
  simp [ofJson?, json, members, Address.ofText?_text, Bytes.ofHex?_toHex, Word.ofQuantity?_quantity]

@[simp]
theorem Defaults.ofJson?_json (ids : Defaults) : ofJson? ids.json = some ids := by
  simp [ofJson?, json]

@[simp]
theorem RawCall.ofJson?_json (call : RawCall) : ofJson? call.json = some call := by
  simp [ofJson?, json, Json.nat, Operation.ofText?_text, Bytes.ofHex?_toHex]

@[simp]
theorem OperationResult.ofJson?_json {write : α -> Json} {read : Json -> Option α}
    (h : forall a, read (write a) = some a) (result : OperationResult α) :
    ofJson? read (result.json write) = some result := by
  simp [ofJson?, json, Operation.ofText?_text, Outcome.ofJson?_json h]

@[simp]
theorem FailedIteration.ofJson?_json (failure : FailedIteration) :
    ofJson? failure.json = some failure := by
  simp [ofJson?, json, Json.nat]

/-!
# Walks
-/

def SkipReason.ofName? : String -> Option SkipReason
  | "match_unavailable" => some .matchUnavailable
  | "zero_id" => some .zeroId
  | "same_as_home" => some .sameAsHome
  | _ => none

def Step.ofJson? (read : Json -> Option α) (document : Json) : Option (Step α) := do
  document.expect? ["outcome", "detail"]
  match ← document.at? Json.text? "outcome" with
  | "fetched" => return .fetched (← document.at? read "detail")
  | "failed" => return .failed (← document.at? ProbeError.ofJson? "detail")
  | "skipped" => return .skipped (← SkipReason.ofName? (← document.at? Json.text? "detail"))
  | _ => none

def MatchTrace.ofJson? (document : Json) : Option MatchTrace := do
  document.expect? ["match_id", "fixture", "league", "home_team", "away_team"]
  return {
    matchId := ← document.at? Json.id? "match_id"
    fixture := ← document.at? (Step.ofJson? Match.ofJson?) "fixture"
    league := ← document.at? (Step.ofJson? League.ofJson?) "league"
    homeTeam := ← document.at? (Step.ofJson? Team.ofJson?) "home_team"
    awayTeam := ← document.at? (Step.ofJson? Team.ofJson?) "away_team" }

def CrossReference.ofJson? (document : Json) : Option CrossReference := do
  document.expect? ["match_ids", "traces"]
  return ⟨← document.at? (Json.list? Json.id?) "match_ids",
    ← document.at? (Json.list? MatchTrace.ofJson?) "traces"⟩

theorem SkipReason.ofName?_name (reason : SkipReason) : ofName? reason.name = some reason := by
  cases reason with
  | _ => rfl

@[simp]
theorem Step.ofJson?_json {write : α -> Json} {read : Json -> Option α}
    (h : forall a, read (write a) = some a) (step : Step α) :
    ofJson? read (step.json write) = some step := by
  cases step with
  | fetched a => simp [ofJson?, json, h]
  | failed e => simp [ofJson?, json]
  | skipped reason =>
      simp [ofJson?, json, SkipReason.ofName?_name]

@[simp]
theorem MatchTrace.ofJson?_json (trace : MatchTrace) : ofJson? trace.json = some trace := by
  simp [ofJson?, json]

@[simp]
theorem CrossReference.ofJson?_json (report : CrossReference) :
    ofJson? report.json = some report := by
  simp [ofJson?, json]

/-!
# Latencies
-/

/-- A document that tells statistics, their durations in milliseconds. -/
structure LatencyStats.ReadFrom (stats : LatencyStats) (document : Json) : Prop where
  names : document.names = ["samples", "min", "max", "average"]
  samples : document.at? Json.natural? "samples" = some stats.samples
  min : document.at? Json.number? "min" = some stats.min.millis
  max : document.at? Json.number? "max" = some stats.max.millis
  average : document.at? Json.number? "average" = some stats.average.millis

/-- A document that tells the outcome of sampling. -/
structure LatencyReport.ReadFrom (report : LatencyReport) (document : Json) : Prop where
  names : document.names = ["label", "iterations", "durations", "failures", "stats"]
  label : document.at? Json.text? "label" = some report.label
  iterations : document.at? Json.natural? "iterations" = some report.iterations.toNat
  durations : document.at? (Json.list? Json.number?) "durations" =
    some (report.durations.map Duration.millis)
  failures : document.at? (Json.list? FailedIteration.ofJson?) "failures" = some report.failures
  /-- There are statistics in the document exactly if there are any. -/
  stats : exists value, document.member? "stats" = some value ∧
    match report.stats with
    | none => value = .null
    | some stats => stats.ReadFrom value

/-- A list of documents that tell a list of reports. -/
def Latency.ReadFrom (reports : List LatencyReport) (document : Json) : Prop :=
  exists items, document = .array items ∧ List.Forall₂ LatencyReport.ReadFrom reports items

theorem LatencyStats.readFrom_json (stats : LatencyStats) : stats.ReadFrom stats.json :=
  ⟨rfl, rfl, rfl, rfl, rfl⟩

theorem LatencyReport.readFrom_json (report : LatencyReport) : report.ReadFrom report.json := by
  have hmillis (d : Duration) : Json.number? d.json = some d.millis := rfl
  constructor
  case names => rfl
  case label => rfl
  case iterations => rfl
  case durations => exact Json.list?_list_eq_map hmillis report.durations
  case failures => exact Json.list?_list FailedIteration.ofJson?_json report.failures
  case stats =>
    refine ⟨_, rfl, ?_⟩
    cases report.stats with
    | none => rfl
    | some stats => exact stats.readFrom_json

theorem Latency.readFrom_list (reports : List LatencyReport) :
    ReadFrom reports (Json.list LatencyReport.json reports) := by
  refine ⟨_, rfl, ?_⟩
  induction reports with
  | nil => exact .nil
  | cons report reports ih => exact .cons report.readFrom_json ih

/-!
# Full runs
-/

def Phase.ofIdentifier? : String -> Option Phase
  | "connectivity" => some .connectivity
  | "debug_info" => some .debugInfo
  | "discovery" => some .discovery
  | "entity_reads" => some .entityReads
  | "gas_estimation" => some .gasEstimation
  | "raw_calls" => some .rawCalls
  | "latency" => some .latency
  | "cross_reference" => some .crossReference
  | _ => none

def Phase.ofJson? (document : Json) : Option Phase := do
  ofIdentifier? (← document.text?)

/-- A document that tells a full run. -/
structure SuiteReport.ReadFrom (report : SuiteReport) (document : Json) : Prop where
  names : document.names = ["chain", "debug_info", "discovery", "defaults", "fixture", "league",
    "team", "gas", "raw_calls", "latency", "cross_reference", "phases"]
  chain : document.at? ChainStatus.ofJson? "chain" = some report.chain
  debugInfo : document.at? (Outcome.ofJson? (AccountInfo.ofJson? [])) "debug_info" =
    some report.debugInfo
  discovery : document.at? (Outcome.ofJson? (Json.list? Json.id?)) "discovery" =
    some report.discovery
  defaults : document.at? Defaults.ofJson? "defaults" = some report.defaults
  fixture : document.at? (Outcome.ofJson? Match.ofJson?) "fixture" = some report.fixture
  league : document.at? (Outcome.ofJson? League.ofJson?) "league" = some report.league
  team : document.at? (Outcome.ofJson? Team.ofJson?) "team" = some report.team
  gas : document.at? (Json.list? (OperationResult.ofJson? Json.id?)) "gas" = some report.gas
  rawCalls : document.at? (Json.list? (OperationResult.ofJson? RawCall.ofJson?)) "raw_calls" =
    some report.rawCalls
  latency : exists value, document.member? "latency" = some value ∧
    Latency.ReadFrom report.latency value
  crossReference : document.at? CrossReference.ofJson? "cross_reference" =
    some report.crossReference
  phases : document.at? (Json.list? Phase.ofJson?) "phases" = some report.phases

theorem SuiteReport.readFrom_json (report : SuiteReport) : report.ReadFrom report.json := by
  have hphase (phase : Phase) : Phase.ofJson? (.string phase.identifier) = some phase := by
    cases phase with
    | _ => rfl
  have hids (ids : List UInt64) : Json.list? Json.id? (idsJson ids) = some ids :=
    Json.list?_list Json.id?_uint64 ids
  constructor
  case names => rfl
  case latency => exact ⟨_, rfl, Latency.readFrom_list report.latency⟩
  case chain => exact report.chain.ofJson?_json
  case debugInfo => exact Outcome.ofJson?_json (AccountInfo.ofJson?_json) report.debugInfo
  case discovery => exact Outcome.ofJson?_json hids report.discovery
  case defaults => exact report.defaults.ofJson?_json
  case fixture => exact Outcome.ofJson?_json Match.ofJson?_json report.fixture
  case league => exact Outcome.ofJson?_json League.ofJson?_json report.league
  case team => exact Outcome.ofJson?_json Team.ofJson?_json report.team
  case gas => exact Json.list?_list (OperationResult.ofJson?_json Json.id?_uint64) report.gas
  case rawCalls =>
    exact Json.list?_list (OperationResult.ofJson?_json RawCall.ofJson?_json) report.rawCalls
  case crossReference => exact report.crossReference.ofJson?_json
  case phases => exact Json.list?_list hphase report.phases

end FixtureProbe
