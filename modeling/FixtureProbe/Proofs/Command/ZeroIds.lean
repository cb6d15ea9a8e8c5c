import FixtureProbe.Proofs.Command.Course

/-!
# Nothing is asked about leagues and teams that are none

An id of zero stands for no league and for no team. Two mechanisms keep such an id from being looked
up. The current ids begin at one, and no discovery and no match makes the league or the team among
them zero. And a walk makes the calls of its traces, none of which looks up an id of zero. This
module shows that the two together cover every request of a full run and of every command, whatever
the node answers, unless the user asks for the id zero by name.
-/

namespace FixtureProbe

open Dialogue

variable {α β σ : Type}

/-!
# Calls and requests
-/

/-- A call that asks for no league and for no team of id zero; any match may be asked for. -/
def Operation.Guarded : Operation -> Prop
  | .getLeague id | .getTeam id => id ≠ 0
  | .getMatch _ | .getUnfinishedMatches => True

/-- The call data that a request carries, if it is made for a call. -/
def Request.calldata? : Request -> Option Bytes
  | .call _ calldata | .estimateGas _ calldata => some calldata
  | _ => none

/-- Current ids with a league and a team. -/
structure Defaults.Guarded (defaults : Defaults) : Prop where
  league : defaults.leagueId ≠ 0
  team : defaults.teamId ≠ 0

namespace Reader

/-- A request that the reader makes for no call, or for a call with a property. -/
inductive MadeFor (reader : Reader) (P : Operation -> Prop) : Request -> Prop where
  | chainId : MadeFor reader P .chainId
  | blockNumber : MadeFor reader P .blockNumber
  | code : MadeFor reader P (.code reader.address)
  | balance : MadeFor reader P (.balance reader.address)
  | call {op : Operation} {calldata : Bytes} (hop : P op)
      (hencode : reader.interface.encode op = .ok calldata) :
      MadeFor reader P (.call reader.address calldata)
  | estimateGas {op : Operation} {calldata : Bytes} (hop : P op)
      (hencode : reader.interface.encode op = .ok calldata) :
      MadeFor reader P (.estimateGas reader.address calldata)

/-- Every request is made for a call that is guarded, or for none. If the functions have selectors of
their own, none of the requests can be mistaken for one about the league or the team of id zero. -/
structure SparesZero (reader : Reader) (requests : List Request) : Prop where
  guarded : forall request, request ∈ requests -> reader.MadeFor Operation.Guarded request
  calldata : (reader.interface.required.map (·.2.selector)).Nodup ->
    forall request, request ∈ requests -> forall calldata, request.calldata? = some calldata ->
      reader.interface.encode (.getLeague 0) ≠ .ok calldata ∧
        reader.interface.encode (.getTeam 0) ≠ .ok calldata

section Requests

variable {reader : Reader} {P : Operation -> Prop} {op : Operation}

theorem exists_encoded {make : Bytes -> Request} {request : Request}
    (h : request ∈ (reader.interface.encode op).toOption.toList.map make) :
    exists calldata, reader.interface.encode op = .ok calldata ∧ request = make calldata := by
  cases hencode : reader.interface.encode op with
  | error e => simp [hencode, Except.toOption] at h
  | ok calldata =>
      rw [hencode] at h
      exact ⟨calldata, rfl, List.mem_singleton.mp h⟩

theorem callRequests_madeFor (hop : P op) :
    forall request, request ∈ reader.callRequests op -> reader.MadeFor P request := by
  intro request hrequest
  rcases exists_encoded hrequest with ⟨calldata, hencode, rfl⟩
  exact .call hop hencode

theorem gasRequests_madeFor (hop : P op) :
    forall request, request ∈ reader.gasRequests op -> reader.MadeFor P request := by
  intro request hrequest
  rcases exists_encoded hrequest with ⟨calldata, hencode, rfl⟩
  exact .estimateGas hop hencode

/-- The call data of a call that is guarded is not that of any call that is not. -/
theorem MadeFor.encode_ne (hdistinct : (reader.interface.required.map (·.2.selector)).Nodup)
    (hop : ¬ P op) {request : Request} (hrequest : reader.MadeFor P request) {calldata : Bytes}
    (hcalldata : request.calldata? = some calldata) :
    reader.interface.encode op ≠ .ok calldata := by
  have hne : forall {other : Operation} {data : Bytes}, P other ->
      reader.interface.encode other = .ok data -> reader.interface.encode op ≠ .ok data := by
    intro other data hother hdata hencode
    have hcalldata := Interface.eq_calldata_of_encode hdata
    rw [Interface.eq_calldata_of_encode hencode] at hcalldata
    rw [Interface.eq_of_calldata_eq hdistinct hcalldata] at hop
    exact hop hother
  cases hrequest with
  | chainId => cases hcalldata
  | blockNumber => cases hcalldata
  | code => cases hcalldata
  | balance => cases hcalldata
  | call hother hencode =>
      cases hcalldata
      exact hne hother hencode
  | estimateGas hother hencode =>
      cases hcalldata
      exact hne hother hencode

theorem sparesZero_of_guarded {requests : List Request}
    (h : forall request, request ∈ requests -> reader.MadeFor Operation.Guarded request) :
    reader.SparesZero requests := by
  refine ⟨h, ?_⟩
  intro hdistinct request hrequest calldata hcalldata
  have hleague : ¬ (Operation.getLeague 0).Guarded := fun hne => hne rfl
  have hteam : ¬ (Operation.getTeam 0).Guarded := fun hne => hne rfl
  exact ⟨(h request hrequest).encode_ne hdistinct hleague hcalldata,
    (h request hrequest).encode_ne hdistinct hteam hcalldata⟩

end Requests

/-!
# Operations of a reader
-/

section Operations

variable (reader : Reader) {P : Operation -> Prop} {op : Operation}

theorem probe_asks : probe.Asks (reader.MadeFor P) := by
  apply (Asks.of_makes (Makes.request _) (by simp [MadeFor.blockNumber])).bind
  intro blockNumber
  cases blockNumber with
  | error reason => exact .pure _
  | ok blockNumber =>
      apply (Asks.of_makes (Makes.request _) (by simp [MadeFor.chainId])).bind
      intro chainId
      cases chainId with
      | error reason => exact .pure _
      | ok chainId => exact (Asks.note _).bind fun _ => .pure _

theorem accountInfo_asks : reader.accountInfo.Asks (reader.MadeFor P) := by
  apply (Asks.of_makes (Makes.request _) (by simp [MadeFor.code])).bind
  intro code
  cases code with
  | error reason => exact .pure _
  | ok code =>
      apply (Asks.of_makes (Makes.request _) (by simp [MadeFor.balance])).bind
      intro balance
      cases balance with
      | error reason => exact .pure _
      | ok balance => exact .pure _

theorem read_asks (hop : P op) (decode : Bytes -> Except ProbeError α) :
    (reader.read op decode).Asks (reader.MadeFor P) :=
  .of_makes (reader.read_makes_callRequests op decode) (callRequests_madeFor hop)

end Operations

end Reader

/-!
# Current ids

Ids that are replaced at all are replaced by ids that are not zero.
-/

theorem ne_zero_of_nonZero {id other : UInt64} (h : other ≠ 0) : (nonZero id).getD other ≠ 0 := by
  rw [Suite.getD_nonZero]
  split
  · exact h
  · assumption

namespace Defaults

theorem guarded_initial : initial.Guarded :=
  ⟨by decide, by decide⟩

variable {defaults : Defaults}

theorem Guarded.withDiscovery (h : defaults.Guarded) (ids : List UInt64) :
    (defaults.withDiscovery ids).Guarded :=
  ⟨h.league, h.team⟩

theorem Guarded.withMatch (h : defaults.Guarded) (m : Match) : (defaults.withMatch m).Guarded :=
  ⟨ne_zero_of_nonZero h.league, ne_zero_of_nonZero h.team⟩

theorem Guarded.operations (h : defaults.Guarded) :
    forall op, op ∈ defaults.operations -> op.Guarded := by
  intro op hop
  simp only [Defaults.operations, List.mem_cons, List.not_mem_nil, or_false] at hop
  rcases hop with rfl | rfl | rfl | rfl
  · exact trivial
  · exact h.league
  · exact h.team
  · exact trivial

end Defaults

namespace Survey

variable (reader : Reader) {defaults : Defaults}

theorem readCurrentMatch_guarded (h : defaults.Guarded) :
    (readCurrentMatch reader defaults).Gives fun read => read.2.Guarded := by
  apply Gives.of_rest
  intro fixture
  cases fixture with
  | ok m => exact .pure (h.withMatch m)
  | error e => exact .pure h

theorem readCurrentMatch_asks :
    (readCurrentMatch reader defaults).Asks (reader.MadeFor Operation.Guarded) := by
  apply (reader.read_asks trivial _).bind
  intro fixture
  cases fixture with
  | ok m => exact .pure _
  | error e => exact .pure _

section Guarded

variable (h : defaults.Guarded)

include h

theorem gas_asks : (gas reader defaults).Asks (reader.MadeFor Operation.Guarded) := by
  apply Asks.of_makes (gas_makes_gasRequests reader defaults)
  intro request hrequest
  rcases List.mem_flatMap.mp hrequest with ⟨op, hop, hrequest⟩
  exact Reader.gasRequests_madeFor (h.operations op hop) request hrequest

theorem rawCalls_asks : (rawCalls reader defaults).Asks (reader.MadeFor Operation.Guarded) := by
  apply Asks.of_makes (rawCalls_makes_callRequests reader defaults)
  intro request hrequest
  rcases List.mem_flatMap.mp hrequest with ⟨op, hop, hrequest⟩
  exact Reader.callRequests_madeFor (h.operations op hop) request hrequest

theorem latency_asks (iterations : UInt32) :
    (latency reader defaults iterations).Asks (reader.MadeFor Operation.Guarded) := by
  apply Asks.of_makes (latency_makes_callRequests reader defaults iterations)
  intro request hrequest
  rcases List.mem_flatMap.mp hrequest with ⟨op, hop, hrequest⟩
  rcases List.mem_flatten.mp hrequest with ⟨requests, hrequests, hrequest⟩
  rw [List.eq_of_mem_replicate hrequests] at hrequest
  exact Reader.callRequests_madeFor (h.operations op hop) request hrequest

end Guarded

end Survey

/-!
# Walks
-/

theorem Match.guarded_of_mem_calls {m : Match} {op : Operation} (hop : op ∈ m.calls) :
    op.Guarded := by
  simp only [Match.calls, List.mem_append, List.mem_ite_nil_left, List.mem_singleton] at hop
  rcases hop with (⟨hleague, rfl⟩ | ⟨hhome, rfl⟩) | ⟨haway, rfl⟩
  · exact hleague
  · exact hhome
  · exact fun hzero => haway (Or.inl hzero)

theorem MatchTrace.guarded_of_mem_calls {trace : MatchTrace} {op : Operation}
    (hop : op ∈ trace.calls) : op.Guarded := by
  unfold MatchTrace.calls at hop
  split at hop
  · rcases List.mem_cons.mp hop with rfl | hop
    · exact trivial
    · exact Match.guarded_of_mem_calls hop
  · rw [List.mem_singleton.mp hop]
    exact trivial

/-- The calls of a walk are those of its traces, and these are guarded. -/
theorem Walk.run_asks (reader : Reader) (ids : List UInt64) :
    (Walk.run reader ids).Asks (reader.MadeFor Operation.Guarded) := by
  constructor
  intro σ node s s' report log hrun exchange hexchange
  have hrequest := List.mem_map_of_mem (f := Exchange.request) hexchange
  rw [requests_of_run hrun] at hrequest
  rcases List.mem_flatMap.mp hrequest with ⟨trace, -, hrequest⟩
  rcases List.mem_flatMap.mp hrequest with ⟨op, hop, hrequest⟩
  exact Reader.callRequests_madeFor (MatchTrace.guarded_of_mem_calls hop) _ hrequest

/-!
# The full run
-/

namespace Suite

theorem guarded_of_surveys {reader : Reader} {options : SuiteOptions} {node : Node σ} {s : σ}
    {report : SuiteReport} {log : List Exchange} (h : Surveys reader options node s report log) :
    forall exchange, exchange ∈ log -> reader.MadeFor Operation.Guarded exchange.request := by
  rcases h with
    ⟨haccount, hdiscovery, hfixture, hleague, hteam, hgas, hrawCalls, hlatency, hwalk⟩
  -- The current ids of the later phases are those after the reading of the current match.
  have hinitial := Defaults.guarded_initial.withDiscovery (report.discovery.toOption.getD [])
  have hdefaults : report.defaults.Guarded :=
    (Survey.readCurrentMatch_guarded reader hinitial).of_runs hfixture
  intro exchange hexchange
  simp only [List.flatten_cons, List.flatten_nil, List.append_nil, List.mem_append] at hexchange
  rcases hexchange with h | h | h | h | h | h | h | h | h
  · exact reader.accountInfo_asks.of_runs haccount exchange h
  · exact (reader.read_asks trivial _).of_runs hdiscovery exchange h
  · exact (Survey.readCurrentMatch_asks reader).of_runs hfixture exchange h
  · exact (reader.read_asks hdefaults.league _).of_runs hleague exchange h
  · exact (reader.read_asks hdefaults.team _).of_runs hteam exchange h
  · exact (Survey.gas_asks reader hdefaults).of_runs hgas exchange h
  · exact (Survey.rawCalls_asks reader hdefaults).of_runs hrawCalls exchange h
  · exact (Survey.latency_asks reader hdefaults _).of_runs hlatency exchange h
  · exact (Walk.run_asks reader _).of_runs hwalk exchange h

theorem survey_asks (reader : Reader) (options : SuiteOptions) (chain : ChainStatus)
    (phases : List Phase) :
    (survey reader options chain phases).Asks (reader.MadeFor Operation.Guarded) :=
  ⟨fun hrun => guarded_of_surveys (surveys_of_survey hrun).2.2⟩

theorem run_asks (reader : Reader) (options : SuiteOptions) :
    (Suite.run reader options).Asks (reader.MadeFor Operation.Guarded) := by
  constructor
  intro σ node s s' outcome log hrun exchange hexchange
  rcases run_cases hrun with ⟨probed, probeLog, restLog, s₁, hprobe, rfl, hrest⟩
  rcases List.mem_append.mp hexchange with hexchange | hexchange
  · exact reader.probe_asks.of_runs hprobe exchange hexchange
  · cases probed with
    | error e =>
        rw [hrest.2] at hexchange
        cases hexchange
    | ok chain =>
        rcases hrest with ⟨report, -, hsurvey⟩
        exact (survey_asks reader options chain _).of_runs hsurvey exchange hexchange

end Suite

/-!
# Commands
-/

/-- The league or the team that the user asks for by its id. -/
def Command.entity? : Command -> Option UInt64
  | .league id | .team id => id
  | _ => none

namespace Command

variable (ctx : Context) (reader : Reader)

theorem tell_asks {P : Request -> Prop} (lines : List Terminal.Line) : (tell lines).Asks P :=
  .noteAll _

theorem discover_guarded : (discover ctx reader).Gives Defaults.Guarded := by
  apply Gives.of_rest
  intro discovery
  cases discovery with
  | error e => exact .of_rest fun _ => .pure Defaults.guarded_initial
  | ok ids => exact .of_rest fun _ => .pure (Defaults.guarded_initial.withDiscovery ids)

theorem discover_asks : (discover ctx reader).Asks (reader.MadeFor Operation.Guarded) := by
  apply (reader.read_asks trivial _).mapNotes.bind
  intro discovery
  cases discovery with
  | error e => exact (tell_asks _).bind fun _ => .pure _
  | ok ids => exact (tell_asks _).bind fun _ => .pure _

theorem resolve_guarded : (resolve ctx reader).Gives Defaults.Guarded := by
  apply (discover_guarded ctx reader).bind
  intro defaults hdefaults
  apply (Survey.readCurrentMatch_guarded reader hdefaults).mapNotes.bind
  intro read hread
  exact .of_rest fun _ => .pure hread

theorem resolve_asks : (resolve ctx reader).Asks (reader.MadeFor Operation.Guarded) := by
  apply (discover_asks ctx reader).bind
  intro defaults
  apply (Survey.readCurrentMatch_asks reader).mapNotes.bind
  intro read
  exact (tell_asks _).bind fun _ => .pure _

theorem single_asks {P : Request -> Prop} (op : Operation)
    {call : Dialogue Log.Record (Outcome α)} (hcall : call.Asks P) : (single ctx op call).Asks P :=
  (tell_asks _).bind fun _ => hcall.mapNotes

/-- An id that is given is used as it is; any other one is found out first. -/
theorem idOr_asks {id : Option UInt64} {otherwise : Dialogue Printed UInt64}
    {call : UInt64 -> Dialogue Printed α} {P : Request -> Prop} {V : UInt64 -> Prop}
    (hgiven : forall given, id = some given -> V given) (hasks : otherwise.Asks P)
    (hfound : otherwise.Gives V) (hcall : forall id, V id -> (call id).Asks P) :
    (idOr id otherwise >>= call).Asks P := by
  cases id with
  | some given => exact hcall given (hgiven given rfl)
  | none => exact hasks.bind_gives hfound hcall

theorem discovered_asks : (discovered ctx reader).Asks (reader.MadeFor Operation.Guarded) := by
  apply (reader.read_asks trivial _).mapNotes.bind
  intro discovery
  cases discovery with
  | ok ids => exact .pure _
  | error e => exact (tell_asks _).bind fun _ => .pure _

theorem walkedIds_asks (ids : List UInt64) :
    (walkedIds ctx reader ids).Asks (reader.MadeFor Operation.Guarded) := by
  unfold walkedIds
  split
  · exact (discovered_asks ctx reader).bind fun _ => .pure _
  · exact .pure _

/-- A survey of the four calls that is made with the current ids. -/
theorem resolve_bind_asks {survey : Defaults -> Dialogue Log.Record α} (report : α -> Report)
    (hsurvey : forall defaults, defaults.Guarded ->
      (survey defaults).Asks (reader.MadeFor Operation.Guarded)) :
    (do return report (← logged (survey (← resolve ctx reader)))).Asks
      (reader.MadeFor Operation.Guarded) := by
  apply (resolve_asks ctx reader).bind_gives (resolve_guarded ctx reader)
  intro defaults hdefaults
  exact (hsurvey defaults hdefaults).mapNotes.bind fun _ => .pure _

theorem gather_asks (chain : ChainStatus) {command : Command}
    (hcommand : command.entity? ≠ some 0) :
    (gather ctx reader chain command).Asks (reader.MadeFor Operation.Guarded) := by
  have hend {α : Type} {d : Dialogue Printed α} (report : α -> Report)
      (hd : d.Asks (reader.MadeFor Operation.Guarded)) :
      (do return report (← d)).Asks (reader.MadeFor Operation.Guarded) :=
    hd.bind fun _ => .pure _
  cases command with
  | run => exact (Suite.survey_asks reader _ chain _).expandNotes.map
  | probe => exact .pure _
  | debug =>
      apply (tell_asks _).bind
      intro _
      exact hend _ reader.accountInfo_asks.mapNotes
  | unfinished => exact hend _ (single_asks ctx _ (reader.read_asks trivial _))
  | fixture id =>
      apply idOr_asks (V := fun _ => True)
      · exact fun _ _ => trivial
      · exact (discover_asks ctx reader).map
      · exact (discover_guarded ctx reader).map fun _ _ => trivial
      · exact fun _ _ => hend _ (single_asks ctx _ (reader.read_asks trivial _))
  | league id =>
      apply idOr_asks (V := (· ≠ 0))
      · exact fun given hgiven hzero => hcommand (hzero ▸ hgiven)
      · exact (resolve_asks ctx reader).map
      · exact (resolve_guarded ctx reader).map fun _ h => h.league
      · exact fun _ hne => hend _ (single_asks ctx _ (reader.read_asks hne _))
  | team id =>
      apply idOr_asks (V := (· ≠ 0))
      · exact fun given hgiven hzero => hcommand (hzero ▸ hgiven)
      · exact (resolve_asks ctx reader).map
      · exact (resolve_guarded ctx reader).map fun _ h => h.team
      · exact fun _ hne => hend _ (single_asks ctx _ (reader.read_asks hne _))
  | gas => exact resolve_bind_asks ctx reader _ fun _ h => Survey.gas_asks reader h
  | raw => exact resolve_bind_asks ctx reader _ fun _ h => Survey.rawCalls_asks reader h
  | bench => exact resolve_bind_asks ctx reader _ fun _ h => Survey.latency_asks reader h _
  | cross ids =>
      apply (walkedIds_asks ctx reader ids).bind
      intro ids
      exact hend _ (Walk.run_asks reader ids).mapNotes

theorem execute_asks {command : Command} (hcommand : command.entity? ≠ some 0) :
    (execute ctx (.ok reader) command).Asks (reader.MadeFor Operation.Guarded) := by
  rw [execute_ok]
  apply (Asks.noteAll _).bind
  intro _
  apply reader.probe_asks.mapNotes.bind
  intro probed
  cases probed with
  | error e => exact (tell_asks _).bind fun _ => .pure _
  | ok chain =>
      apply (tell_asks _).bind
      intro _
      apply (gather_asks ctx reader chain hcommand).bind
      intro report
      exact (tell_asks _).bind fun _ => .pure _

/-- Without a reader there is nothing to ask with. -/
theorem execute_error_asks (e : ProbeError) (command : Command) :
    (execute ctx (.error e) command).Asks fun _ => False := by
  rw [execute_error]
  apply (tell_asks _).bind
  intro _
  exact (tell_asks _).bind fun _ => .pure _

end Command

/-!
# The whole program
-/

/-- Whatever a node answers, and however its answers change, no request of a full run is made for the
league or the team of id zero, and neither is one of a command, unless the user asks for that id.
Where nothing could be built to ask with, nothing is asked at all. -/
theorem Program.spares_zero (reader : Reader) (node : Node σ) (s : σ) :
    (forall options, reader.SparesZero ((Suite.run reader options).run node s).requests) ∧
    (forall arguments settings endpoint, arguments.command.entity? ≠ some 0 ->
      reader.SparesZero
        ((Program.dialogue arguments settings (.ok (endpoint, reader))).run node s).requests) ∧
    (forall arguments settings e,
      ((Program.dialogue arguments settings (.error e)).run node s).requests = []) := by
  refine ⟨?_, ?_, ?_⟩
  · intro options
    exact Reader.sparesZero_of_guarded ((Suite.run_asks reader options).requests node s)
  · intro arguments settings endpoint hcommand
    apply Reader.sparesZero_of_guarded
    apply Asks.requests
    apply (Asks.note _).bind
    intro _
    exact (Command.execute_asks (context arguments settings) reader hcommand).announce
  · intro arguments settings e
    apply List.eq_nil_iff_forall_not_mem.mpr
    apply Asks.requests
    apply (Asks.note _).bind
    intro _
    exact (Command.execute_error_asks (context arguments settings) e arguments.command).announce

theorem Program.spares_zero_flaky :
    let reader : Reader := ⟨Interface.embedded, ⟨0x0fff⟩⟩
    let endpoint : Endpoint := ⟨"http:/", ⟨"http", none, none, none, "/", none, none⟩⟩
    let arguments : Arguments := ⟨{}, none, false, false, false, .league none⟩
    let run := (Program.dialogue arguments (.resolve {} {}) (.ok (endpoint, reader))).run Node.flaky 0
    arguments.command.entity? ≠ some 0 ∧
    forall request, request ∈ run.requests -> forall calldata,
      request.calldata? = some calldata ->
        reader.interface.encode (.getLeague 0) ≠ .ok calldata ∧
          reader.interface.encode (.getTeam 0) ≠ .ok calldata := by
  intro reader endpoint arguments run
  have hcommand : arguments.command.entity? ≠ some 0 := by decide
  have hspared := (spares_zero reader .flaky 0).2.1 arguments (.resolve {} {}) endpoint hcommand
  exact ⟨hcommand, hspared.calldata Interface.callable_embedded.distinct⟩

end FixtureProbe
