import FixtureProbe.Probe.Suite
import FixtureProbe.Proofs.Probe.Survey
import FixtureProbe.Proofs.Probe.Walk

/-!
# What a full run asks

The requests of a full run form a fixed skeleton. The ids in it come from two replies, the discovered
matches and the current match, and the walk at its end comes from the replies that it gets itself.
Whether the other requests are granted or refused, and however the node changes its mind, the next
phase asks what it would have asked anyway. Only a failed probe ends the run.
-/

namespace FixtureProbe

open Dialogue

variable {α β σ : Type}

/-!
# The probe and the account

These ask for a second thing only when the first was given.
-/

namespace Reader

/-- The requests about the account, given the reply to the first of them. -/
def accountRequests (reader : Reader) (code : Except String Bytes) : List Request :=
  match code with
  | .ok _ => [.code reader.address, .balance reader.address]
  | .error _ => [.code reader.address]

/-- The state in which the requests about the account leave the node. -/
def stateAfterAccount (reader : Reader) (node : Node σ) (s : σ) : σ :=
  match (node.answer s (.code reader.address)).1 with
  | .ok _ => (node.answer (node.answer s (.code reader.address)).2 (.balance reader.address)).2
  | .error _ => (node.answer s (.code reader.address)).2

theorem accountInfo_runs {reader : Reader} {node : Node σ} {s s' : σ}
    {outcome : Outcome AccountInfo} {log : List Exchange}
    (hrun : Runs node s reader.accountInfo outcome log s') :
    log.map Exchange.request =
        reader.accountRequests (node.answer s (.code reader.address)).1 ∧
      s' = reader.stateAfterAccount node s := by
  rcases hrun.of_bind with ⟨code, codeLog, rest, s₁, hcode, hrest, rfl⟩
  rcases (Runs.request node s (.code reader.address)).unique hcode with ⟨hreply, rfl, rfl⟩
  unfold accountRequests stateAfterAccount
  cases code with
  | error reason =>
      rcases hrest.of_pure with ⟨-, rfl, rfl⟩
      rw [hreply]
      exact ⟨rfl, rfl⟩
  | ok code =>
      rcases hrest.of_bind with ⟨balance, balanceLog, log₁, s₂, hbalance, hlast, rfl⟩
      rcases (Runs.request node _ (.balance reader.address)).unique hbalance with ⟨-, rfl, rfl⟩
      rw [hreply]
      cases balance with
      | error reason =>
          rcases hlast.of_pure with ⟨-, rfl, rfl⟩
          exact ⟨rfl, rfl⟩
      | ok balance =>
          rcases hlast.of_pure with ⟨-, rfl, rfl⟩
          exact ⟨rfl, rfl⟩

/-- The probe fails with the first refusal; both numbers make a connection. -/
theorem probe_runs {node : Node σ} {s s' : σ} {outcome : Outcome ChainStatus}
    {log : List Exchange} (hrun : Runs node s probe outcome log s') :
    match (node.answer s .blockNumber).1,
        (node.answer (node.answer s .blockNumber).2 .chainId).1 with
    | .error reason, _ =>
        outcome = .error (.connectivity reason) ∧ log.map Exchange.request = [.blockNumber]
    | .ok _, .error reason =>
        outcome = .error (.connectivity reason) ∧
          log.map Exchange.request = [.blockNumber, .chainId]
    | .ok blockNumber, .ok chainId =>
        outcome = .ok ⟨chainId, blockNumber⟩ ∧
          log.map Exchange.request = [.blockNumber, .chainId] ∧
          s' = (node.answer (node.answer s .blockNumber).2 .chainId).2 := by
  rcases hrun.of_bind with ⟨blockNumber, blockLog, rest, s₁, hblock, hrest, rfl⟩
  rcases (Runs.request node s .blockNumber).unique hblock with ⟨hblockReply, rfl, rfl⟩
  rw [hblockReply]
  cases blockNumber with
  | error reason =>
      rcases hrest.of_pure with ⟨rfl, rfl, -⟩
      exact ⟨rfl, rfl⟩
  | ok blockNumber =>
      rcases hrest.of_bind with ⟨chainId, chainLog, log₁, s₂, hchain, hlast, rfl⟩
      rcases (Runs.request node _ .chainId).unique hchain with ⟨hchainReply, rfl, rfl⟩
      rw [hchainReply]
      cases chainId with
      | error reason =>
          rcases hlast.of_pure with ⟨rfl, rfl, -⟩
          exact ⟨rfl, rfl⟩
      | ok chainId =>
          rcases ((Runs.note _).of_silent_bind hlast).of_pure with ⟨rfl, rfl, rfl⟩
          exact ⟨rfl, rfl, rfl⟩

end Reader

namespace Suite

/-!
# Phases

A phase asks what its dialogue asks; beginning one and reporting on it asks nothing.
-/

section Phases

variable {node : Node σ} {s s' : σ} {b : β} {log : List Exchange}

theorem of_enter_bind {phase : Phase} {f : Phase -> Dialogue Note β}
    (hrun : Runs node s (enter phase >>= f) b log s') : Runs node s (f phase) b log s' := by
  have hsilent : Runs node s (enter phase) phase [] s := ⟨rfl, rfl, rfl⟩
  exact hsilent.of_silent_bind hrun

theorem of_report_bind {event : PhaseEvent} {f : Unit -> Dialogue Note β}
    (hrun : Runs node s (report event >>= f) b log s') : Runs node s (f ()) b log s' :=
  (Runs.note _).of_silent_bind hrun

theorem of_logged_bind {d : Dialogue Log.Record α} {f : α -> Dialogue Note β}
    (hrun : Runs node s (logged d >>= f) b log s') :
    exists a first second s₁, Runs node s d a first s₁ ∧ Runs node s₁ (f a) b second s' ∧
      log = first ++ second := by
  rcases hrun.of_bind with ⟨a, first, second, s₁, hd, hf, hlog⟩
  exact ⟨a, first, second, s₁, hd.of_mapNotes, hf, hlog⟩

end Phases

/-!
# The survey, phase by phase
-/

/-- The phases of a survey as runs, each from the state in which the one before leaves the node. -/
inductive Surveys (reader : Reader) (options : SuiteOptions) (node : Node σ) (s : σ)
    (report : SuiteReport) : List Exchange -> Prop where
  | intro {s₁ s₂ s₃ s₄ s₅ s₆ s₇ s₈ s₉ : σ}
      {log₁ log₂ log₃ log₄ log₅ log₆ log₇ log₈ log₉ : List Exchange}
      (account : Runs node s reader.accountInfo report.debugInfo log₁ s₁)
      (discovery : Runs node s₁ reader.readUnfinished report.discovery log₂ s₂)
      (fixture : Runs node s₂
        (Survey.readCurrentMatch reader
          (Defaults.initial.withDiscovery (report.discovery.toOption.getD [])))
        (report.fixture, report.defaults) log₃ s₃)
      (league : Runs node s₃ (reader.readLeague report.defaults.leagueId) report.league log₄ s₄)
      (team : Runs node s₄ (reader.readTeam report.defaults.teamId) report.team log₅ s₅)
      (gas : Runs node s₅ (Survey.gas reader report.defaults) report.gas log₆ s₆)
      (rawCalls : Runs node s₆ (Survey.rawCalls reader report.defaults) report.rawCalls log₇ s₇)
      (latency : Runs node s₇ (Survey.latency reader report.defaults options.iterations)
        report.latency log₈ s₈)
      (walk : Runs node s₈
        (Walk.run reader
          (Walk.workingSet (report.discovery.toOption.getD []) options.workingSetSize))
        report.crossReference log₉ s₉) :
      Surveys reader options node s report
        [log₁, log₂, log₃, log₄, log₅, log₆, log₇, log₈, log₉].flatten

theorem surveys_of_survey {reader : Reader} {options : SuiteOptions} {chain : ChainStatus}
    {phases : List Phase} {report : SuiteReport} {node : Node σ} {s s' : σ} {log : List Exchange}
    (hrun : Runs node s (survey reader options chain phases) report log s') :
    report.chain = chain ∧ report.phases = phases ++ Phase.all.tail ∧
      Surveys reader options node s report log := by
  -- Entering a phase and reporting on the one before exchange nothing, so only the dialogues of
  -- the phases leave a log.
  rcases of_logged_bind (of_enter_bind hrun) with
    ⟨debugInfo, log₁, rest₁, s₁, haccount, hrun₁, rfl⟩
  rcases of_logged_bind (of_enter_bind (of_report_bind hrun₁)) with
    ⟨discovery, log₂, rest₂, s₂, hdiscovery, hrun₂, rfl⟩
  rcases of_logged_bind (of_enter_bind (of_report_bind hrun₂)) with
    ⟨⟨fixture, defaults⟩, log₃, rest₃, s₃, hfixture, hrun₃, rfl⟩
  rcases of_logged_bind hrun₃ with ⟨league, log₄, rest₄, s₄, hleague, hrun₄, rfl⟩
  rcases of_logged_bind hrun₄ with ⟨team, log₅, rest₅, s₅, hteam, hrun₅, rfl⟩
  rcases of_logged_bind (of_enter_bind (of_report_bind hrun₅)) with
    ⟨gas, log₆, rest₆, s₆, hgas, hrun₆, rfl⟩
  rcases of_logged_bind (of_enter_bind (of_report_bind hrun₆)) with
    ⟨rawCalls, log₇, rest₇, s₇, hrawCalls, hrun₇, rfl⟩
  rcases of_logged_bind (of_enter_bind (of_report_bind hrun₇)) with
    ⟨latency, log₈, rest₈, s₈, hlatency, hrun₈, rfl⟩
  rcases of_logged_bind (of_enter_bind (of_report_bind hrun₈)) with
    ⟨crossReference, log₉, rest₉, s₉, hwalk, hrun₉, rfl⟩
  rcases (of_report_bind hrun₉).of_pure with ⟨rfl, rfl, rfl⟩
  have hphases : phases ++ [Phase.debugInfo] ++ [.discovery] ++ [.entityReads] ++ [.gasEstimation] ++
      [.rawCalls] ++ [.latency] ++ [.crossReference] = phases ++ Phase.all.tail := by
    simp only [List.append_assoc]
    rfl
  exact ⟨rfl, hphases, .intro haccount hdiscovery hfixture hleague hteam hgas hrawCalls hlatency hwalk⟩

/-!
# The skeleton
-/

/-- The current ids that follow from the discovered ids and from the current match. -/
def currentIds (discovery : Outcome (List UInt64)) (fixture : Outcome Match) : Defaults where
  matchId :=
    match discovery with
    | .ok (id :: _) => id
    | _ => 1
  leagueId :=
    match fixture with
    | .ok m => if m.leagueId = 0 then 1 else m.leagueId
    | .error _ => 1
  teamId :=
    match fixture with
    | .ok m => if m.homeId = 0 then 1 else m.homeId
    | .error _ => 1

theorem matchId_withDiscovery (discovery : Outcome (List UInt64)) (fixture : Outcome Match) :
    (Defaults.initial.withDiscovery (discovery.toOption.getD [])).matchId =
      (currentIds discovery fixture).matchId := by
  rcases discovery with e | ids
  · rfl
  · cases ids <;> rfl

theorem getD_nonZero (id other : UInt64) :
    (nonZero id).getD other = if id = 0 then other else id := by
  unfold nonZero
  split
  · rfl
  · rfl

theorem refined_withDiscovery (discovery : Outcome (List UInt64)) (fixture : Outcome Match) :
    Survey.refined (Defaults.initial.withDiscovery (discovery.toOption.getD [])) fixture =
      currentIds discovery fixture := by
  have hmatchId := matchId_withDiscovery discovery fixture
  cases fixture with
  | error e => exact congrArg (Defaults.mk · 1 1) hmatchId
  | ok m =>
      unfold Survey.refined Defaults.withMatch Match.league Match.homeTeam
      dsimp only
      rw [getD_nonZero, getD_nonZero, hmatchId]
      rfl

/-- The requests after the probe, given the reply about the code of the account. -/
def skeleton (reader : Reader) (options : SuiteOptions) (code : Except String Bytes)
    (report : SuiteReport) : List Request :=
  [reader.accountRequests code,
    [reader.callRequest .getUnfinishedMatches],
    [reader.callRequest (.getMatch report.defaults.matchId)],
    [reader.callRequest (.getLeague report.defaults.leagueId)],
    [reader.callRequest (.getTeam report.defaults.teamId)],
    report.defaults.operations.map reader.gasRequest,
    report.defaults.operations.map reader.callRequest,
    report.defaults.operations.flatMap fun op =>
      List.replicate options.iterations.toNat (reader.callRequest op),
    report.crossReference.traces.flatMap fun trace =>
      trace.calls.map reader.callRequest].flatten

/-- What a connected run reports and asks: the current ids follow from the replies to two of its
calls, the walk goes over the discovered matches, and the requests are those of the skeleton. -/
structure Conducted (reader : Reader) (options : SuiteOptions) (node : Node σ) (s : σ)
    (report : SuiteReport) (requests : List Request) : Prop where
  phases : report.phases = Phase.all
  discovery :
    report.discovery =
      Reader.verdict .getUnfinishedMatches reader.interface.decodeUnfinished
        (reader.reply node (reader.stateAfterAccount node s) .getUnfinishedMatches)
  fixture :
    report.fixture =
      Reader.verdict (.getMatch report.defaults.matchId)
        (reader.interface.decodeMatch report.defaults.matchId)
        (reader.reply node
          (reader.stateAfter node (reader.stateAfterAccount node s) .getUnfinishedMatches)
          (.getMatch report.defaults.matchId))
  defaults : report.defaults = currentIds report.discovery report.fixture
  matchIds :
    report.crossReference.matchIds =
      Walk.workingSet (report.discovery.toOption.getD []) options.workingSetSize
  traces :
    report.crossReference.traces.map MatchTrace.matchId = report.crossReference.matchIds
  walk : exists t,
    let walk := (Walk.run reader report.crossReference.matchIds).run node t
    walk.value = report.crossReference ∧
      walk.requests =
        report.crossReference.traces.flatMap fun trace => trace.calls.map reader.callRequest
  requests :
    requests = skeleton reader options (node.answer s (.code reader.address)).1 report

theorem conducted_of_survey {reader : Reader} (h : reader.interface.Encodes)
    {options : SuiteOptions} {chain : ChainStatus} {report : SuiteReport} {node : Node σ} {s s' : σ}
    {log : List Exchange} (hrun : Runs node s (survey reader options chain [.connectivity]) report log s') :
    report.chain = chain ∧
      Conducted reader options node s report (log.map Exchange.request) := by
  rcases surveys_of_survey hrun with ⟨hchain, hphases, hsurveys⟩
  rcases hsurveys with
    ⟨haccount, hdiscovery, hfixture, hleague, hteam, hgas, hrawCalls, hlatency, hwalk⟩
  rcases Reader.accountInfo_runs haccount with ⟨haccountLog, rfl⟩
  rcases (Reader.read_runs h node _ _ _).unique hdiscovery with ⟨hdiscovered, rfl, rfl⟩
  rcases Survey.of_readCurrentMatch h hfixture with ⟨hread, hdefaults, hfixtureLog⟩
  rcases Walk.recorded_of_run h hwalk with ⟨hids, htraces, logs, rfl, hrecorded⟩
  rw [refined_withDiscovery] at hdefaults
  have hmatchId : (Defaults.initial.withDiscovery (report.discovery.toOption.getD [])).matchId =
      report.defaults.matchId := by
    rw [hdefaults, matchId_withDiscovery]
  rw [hmatchId] at hread hfixtureLog
  -- Everything but the requests is a part of the report; the requests are put together phase by
  -- phase, in the order of the logs.
  refine ⟨hchain, hphases, hdiscovered.symm, hread, hdefaults, hids, ?_, ?_, ?_⟩
  · rw [htraces, hids]
  · rw [hids]
    exact ⟨_, hwalk.value, hwalk.requests.trans (Walk.requests_of_recorded hrecorded)⟩
  · rw [List.map_flatten]
    simp only [List.map_cons, List.map_nil]
    rw [haccountLog, hfixtureLog, Reader.read_makes h _ _ hleague, Reader.read_makes h _ _ hteam,
      Survey.gas_makes h _ hgas, Survey.rawCalls_makes h _ hrawCalls,
      Survey.latency_makes h _ _ hlatency, Walk.requests_of_recorded hrecorded]
    rfl

/-!
# The run
-/

/-- A run is its probe and, once connected, its survey. -/
theorem run_cases {reader : Reader} {options : SuiteOptions} {node : Node σ} {s s' : σ}
    {outcome : Outcome SuiteReport} {log : List Exchange}
    (hrun : Runs node s (Suite.run reader options) outcome log s') :
    exists probed probeLog restLog s₁,
      Runs node s Reader.probe probed probeLog s₁ ∧ log = probeLog ++ restLog ∧
        match probed with
        | .error e => outcome = .error e ∧ restLog = []
        | .ok chain =>
            exists report, outcome = .ok report ∧
              Runs node s₁ (survey reader options chain [.connectivity]) report restLog s' := by
  rcases of_logged_bind (of_enter_bind hrun) with
    ⟨probed, probeLog, restLog, s₁, hprobe, hrest, rfl⟩
  refine ⟨probed, probeLog, restLog, s₁, hprobe, rfl, ?_⟩
  cases probed with
  | error e =>
      rcases hrest.of_pure with ⟨rfl, rfl, -⟩
      exact ⟨rfl, rfl⟩
  | ok chain =>
      rcases (of_report_bind hrest).of_bind with ⟨report, log₁, log₂, s₂, hsurvey, hpure, rfl⟩
      rcases hpure.of_pure with ⟨rfl, rfl, rfl⟩
      rw [List.append_nil]
      exact ⟨report, rfl, hsurvey⟩

/-- A run ends with a failure exactly when the probe fails, and then asks nothing more. Every other
run gives a report on all phases, and asks what the skeleton says. -/
theorem run_conducted (reader : Reader) (h : reader.interface.Encodes) (node : Node σ) (s : σ)
    (options : SuiteOptions) :
    let run := (Suite.run reader options).run node s
    let first := node.answer s .blockNumber
    let second := node.answer first.2 .chainId
    match first.1, second.1 with
    | .error reason, _ =>
        run.value = .error (.connectivity reason) ∧ run.requests = [.blockNumber]
    | .ok _, .error reason =>
        run.value = .error (.connectivity reason) ∧ run.requests = [.blockNumber, .chainId]
    | .ok blockNumber, .ok chainId =>
        exists report requests, run.value = .ok report ∧
          report.chain = ⟨chainId, blockNumber⟩ ∧
          run.requests = .blockNumber :: .chainId :: requests ∧
          Conducted reader options node second.2 report requests := by
  intro run first second
  have hrun : Runs node s (Suite.run reader options) run.value run.exchanges run.state :=
    Runs.self node s _
  rcases run_cases hrun with ⟨probed, probeLog, restLog, s₁, hprobe, hlog, hrest⟩
  have hrequests : run.requests =
      probeLog.map Exchange.request ++ restLog.map Exchange.request := by
    rw [← List.map_append, ← hlog]
    exact hrun.requests
  have hprobed := Reader.probe_runs hprobe
  rw [hrequests]
  dsimp only [first, second]
  -- The replies to the probe decide between the three kinds of runs.
  cases hblock : (node.answer s .blockNumber).1 with
  | error reason =>
      rw [hblock] at hprobed
      rcases hprobed with ⟨rfl, hprobeLog⟩
      rw [hprobeLog, hrest.2]
      exact ⟨hrest.1, rfl⟩
  | ok blockNumber =>
      cases hchain : (node.answer (node.answer s .blockNumber).2 .chainId).1 with
      | error reason =>
          rw [hblock, hchain] at hprobed
          rcases hprobed with ⟨rfl, hprobeLog⟩
          rw [hprobeLog, hrest.2]
          exact ⟨hrest.1, rfl⟩
      | ok chainId =>
          rw [hblock, hchain] at hprobed
          rcases hprobed with ⟨rfl, hprobeLog, rfl⟩
          rcases hrest with ⟨report, hvalue, hsurvey⟩
          rcases conducted_of_survey h hsurvey with ⟨hreport, hconducted⟩
          rw [hprobeLog]
          exact ⟨report, restLog.map Exchange.request, hvalue, hreport, rfl, hconducted⟩

theorem run_conducted_flaky :
    let reader : Reader := ⟨Interface.embedded, ⟨0x0fff⟩⟩
    let run := fun s => (Suite.run reader ⟨2, 3⟩).run Node.flaky s
    (exists report requests, (run 0).value = .ok report ∧
      report.chain = ⟨31337, 1⟩ ∧
      (run 0).requests = .blockNumber :: .chainId :: requests ∧
      Conducted reader ⟨2, 3⟩ Node.flaky 2 report requests) ∧
    ((run 1).value = .error (.connectivity "busy") ∧
      (run 1).requests = [.blockNumber, .chainId]) ∧
    ((run 2).value = .error (.connectivity "busy") ∧ (run 2).requests = [.blockNumber]) := by
  have h := Interface.callable_embedded.encodes
  refine ⟨?_, ?_, ?_⟩
  · exact run_conducted ⟨Interface.embedded, ⟨0x0fff⟩⟩ h .flaky 0 ⟨2, 3⟩
  · exact run_conducted ⟨Interface.embedded, ⟨0x0fff⟩⟩ h .flaky 1 ⟨2, 3⟩
  · exact run_conducted ⟨Interface.embedded, ⟨0x0fff⟩⟩ h .flaky 2 ⟨2, 3⟩

end Suite

end FixtureProbe
