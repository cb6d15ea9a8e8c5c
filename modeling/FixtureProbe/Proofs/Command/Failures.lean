import FixtureProbe.Proofs.Command.PlainLines
import FixtureProbe.Proofs.Command.Startup

/-!
# Failures told to a person

A command tells of a failure where it belongs: while it finds out ids, at the end of a phase, in the
report on a single lookup, among the iterations of a sample, or at its step of a trace. Nothing gets
lost between these places and nothing is told twice. What has been attempted up to some point has
failed with the texts that were said up to there, and with those that are still to be reported. The
full run counts what it has told of, and a walk counts its own share of that.
-/

namespace FixtureProbe

open Dialogue
open Terminal (Line)
open Terminal.Line (failureTexts failureTexts_append)

variable {α β σ : Type}

/-!
# What a command attempts
-/

/-- The traces in a report. -/
def Report.traces : Report -> List MatchTrace
  | .crossReference report => report.traces
  | .suite report => report.crossReference.traces
  | _ => []

namespace Command

/-- The attempt of finding out the discovered matches. -/
def discovery : List Attempt :=
  [.read .getUnfinishedMatches]

/-- The attempts of finding out the current ids: the discovered matches, and the current match. -/
def resolution (ids : Defaults) : List Attempt :=
  discovery ++ [.read (.getMatch ids.matchId)]

/-- What a connected command attempts, in order, when it finds out the given ids, as far as it needs
them, and when its walk leaves the given traces. -/
def attempts (iterations : UInt32) (ids : Defaults) (traces : List MatchTrace) :
    Command -> List Attempt
  | .run => Suite.attempts ids iterations traces
  | .probe => []
  | .debug => [.account]
  | .unfinished => [.read .getUnfinishedMatches]
  | .fixture (some id) => [.read (.getMatch id)]
  | .fixture none => discovery ++ [.read (.getMatch ids.matchId)]
  | .league (some id) => [.read (.getLeague id)]
  | .league none => resolution ids ++ [.read (.getLeague ids.leagueId)]
  | .team (some id) => [.read (.getTeam id)]
  | .team none => resolution ids ++ [.read (.getTeam ids.teamId)]
  | .gas => resolution ids ++ ids.operations.map .gas
  | .raw => resolution ids ++ ids.operations.map .raw
  | .bench => resolution ids ++ Survey.samples ids iterations
  | .cross [] => discovery ++ traces.flatMap MatchTrace.attempts
  | .cross (_ :: _) => traces.flatMap MatchTrace.attempts

/-- Of these, the attempts that only serve to find out ids that were not given. -/
def preparation (ids : Defaults) : Command -> List Attempt
  | .fixture none | .cross [] => discovery
  | .league none | .team none | .gas | .raw | .bench => resolution ids
  | _ => []

/-- The attempts that are left: those for the report itself. -/
def ownAttempts (iterations : UInt32) (ids : Defaults) (traces : List MatchTrace) :
    Command -> List Attempt
  | .run => Suite.attempts ids iterations traces
  | .probe => []
  | .debug => [.account]
  | .unfinished => [.read .getUnfinishedMatches]
  | .fixture id => [.read (.getMatch (id.getD ids.matchId))]
  | .league id => [.read (.getLeague (id.getD ids.leagueId))]
  | .team id => [.read (.getTeam (id.getD ids.teamId))]
  | .gas => ids.operations.map .gas
  | .raw => ids.operations.map .raw
  | .bench => Survey.samples ids iterations
  | .cross _ => traces.flatMap MatchTrace.attempts

theorem attempts_eq_append (iterations : UInt32) (ids : Defaults) (traces : List MatchTrace)
    (command : Command) :
    attempts iterations ids traces command =
      preparation ids command ++ ownAttempts iterations ids traces command := by
  cases command with
  | fixture id => cases id <;> rfl
  | league id => cases id <;> rfl
  | team id => cases id <;> rfl
  | cross ids => cases ids <;> rfl
  | _ => rfl

/-!
# What is said on the way
-/

/-- The texts of the failures that a run of a dialogue tells of on its way. -/
def said (node : Node σ) (s : σ) (d : Dialogue Printed α) : List String :=
  failureTexts (linesOf node s d)

section Said

variable {node : Node σ} {s s₁ : σ} {a : α} {log : List Exchange}

theorem said_bind {d : Dialogue Printed α} (h : Runs node s d a log s₁)
    (f : α -> Dialogue Printed β) :
    said node s (d >>= f) = said node s d ++ said node s₁ (f a) := by
  rw [said, linesOf_bind h, failureTexts_append]
  rfl

theorem said_logged (d : Dialogue Log.Record α) : said node s (logged d) = [] := by
  rw [said, linesOf_logged]
  rfl

theorem said_map (g : α -> β) (d : Dialogue Printed α) : said node s (g <$> d) = said node s d := by
  rw [said, linesOf_map]
  rfl

theorem said_tell (lines : List Line) : said node s (tell lines) = failureTexts lines := by
  rw [said, linesOf_tell]

/-- What is told just before a value is given. -/
theorem said_tell_pure (lines : List Line) (a : α) :
    said node s (tell lines >>= fun _ => pure a) = failureTexts lines := by
  rw [said, linesOf_tell_bind]
  exact congrArg failureTexts (List.append_nil lines)

end Said

/-- A dialogue makes attempts, and a person is told of their failures: the texts of these are those that
the dialogue says on its way and after them those that are pending, which are still to be told of. -/
def Tells (ctx : Context) (reader : Reader) (node : Node σ) (s : σ) (d : Dialogue Printed α)
    (attempts : List Attempt) (pending : List String) (log : List Exchange) (s' : σ) : Prop :=
  exists texts, Attempted reader node s attempts texts log s' ∧
    (ctx.json = false -> said node s d ++ pending = texts)

namespace Tells

variable {ctx : Context} {reader : Reader} {node : Node σ} {s s₁ s' : σ} {a : α} {b : β}
  {d : Dialogue Printed α} {f : α -> Dialogue Printed β} {attempts others : List Attempt}
  {pending texts : List String} {log rest : List Exchange}

protected theorem pure (a : α) : Tells ctx reader node s (pure a : Dialogue Printed α) [] [] [] s :=
  ⟨[], .nil s, fun _ => rfl⟩

theorem of_logged (ctx : Context) {d : Dialogue Log.Record α}
    (h : Attempted reader node s attempts texts log s') :
    Tells ctx reader node s (logged d) attempts texts log s' := by
  refine ⟨texts, h, fun _ => ?_⟩
  rw [said_logged]
  rfl

theorem bind (hrun : Runs node s d a log s₁) (hd : Tells ctx reader node s d attempts [] log s₁)
    (hf : Tells ctx reader node s₁ (f a) others pending rest s') :
    Tells ctx reader node s (d >>= f) (attempts ++ others) pending (log ++ rest) s' := by
  rcases hd with ⟨texts, hattempted, htexts⟩
  rcases hf with ⟨more, hattempted', hmore⟩
  refine ⟨texts ++ more, hattempted.append hattempted', fun hjson => ?_⟩
  rw [said_bind hrun, List.append_assoc, hmore hjson, ← htexts hjson, List.append_nil]

/-- What is pending is told of, and nothing else is done. -/
theorem tell (hrun : Runs node s d a log s') (hd : Tells ctx reader node s d attempts pending log s')
    (hf : ctx.json = false -> said node s' (f a) = pending) :
    Tells ctx reader node s (d >>= f) attempts [] log s' := by
  rcases hd with ⟨texts, hattempted, htexts⟩
  refine ⟨texts, hattempted, fun hjson => ?_⟩
  rw [said_bind hrun, hf hjson, List.append_nil, htexts hjson]

/-- What is pending stays pending in a value that is shown in another way. -/
theorem map (g : α -> β) (hd : Tells ctx reader node s d attempts pending log s') :
    Tells ctx reader node s (g <$> d) attempts pending log s' := by
  rcases hd with ⟨texts, hattempted, htexts⟩
  refine ⟨texts, hattempted, fun hjson => ?_⟩
  rw [said_map, htexts hjson]

theorem bind_pure (g : α -> β) (hd : Tells ctx reader node s d attempts pending log s') :
    Tells ctx reader node s (d >>= fun a => pure (g a)) attempts pending log s' := by
  rw [bind_pure_comp]
  exact hd.map g

end Tells

section Preparations

variable {ctx : Context} {reader : Reader} {node : Node σ} {s s' : σ} {log : List Exchange}

/-!
# Finding out ids
-/

theorem tells_discover {ids : Defaults} (h : Runs node s (discover ctx reader) ids log s') :
    Tells ctx reader node s (discover ctx reader) discovery [] log s' := by
  rcases h.of_bind with ⟨discovered, first, rest, s₁, hread, hrest, rfl⟩
  have hlogged := Tells.of_logged ctx (d := reader.readUnfinished)
    (Reader.readUnfinished_mentioned hread.of_mapNotes).attempted
  cases discovered with
  | error e =>
      rcases ((runs_tell _).of_silent_bind hrest).of_pure with ⟨-, rfl, rfl⟩
      rw [List.append_nil]
      apply hlogged.tell hread
      intro hjson
      rw [said_tell_pure, hjson]
      rfl
  | ok ids =>
      rcases ((runs_tell _).of_silent_bind hrest).of_pure with ⟨-, rfl, rfl⟩
      rw [List.append_nil]
      apply hlogged.tell hread
      intro _
      rw [said_tell_pure]
      split
      · rfl
      · rfl

theorem tells_resolve {ids : Defaults} (h : Runs node s (resolve ctx reader) ids log s') :
    Tells ctx reader node s (resolve ctx reader) (resolution ids) [] log s' := by
  rcases h.of_bind with ⟨found, first, rest, s₁, hdiscover, hrest, rfl⟩
  rcases hrest.of_bind with ⟨⟨current, refined⟩, second, last, s₂, hread, hlast, rfl⟩
  -- The match is read under the id that was found; refining the ids keeps this one.
  have hmatchId : refined.matchId = found.matchId :=
    ((Survey.readCurrentMatch_gives reader found).of_runs hread.of_mapNotes).2
  have hlogged := Tells.of_logged ctx (d := Survey.readCurrentMatch reader found)
    (Survey.readCurrentMatch_mentioned hread.of_mapNotes).attempted
  rw [← hmatchId] at hlogged
  rcases ((runs_tell _).of_silent_bind hlast).of_pure with ⟨rfl, rfl, rfl⟩
  apply (tells_discover hdiscover).bind hdiscover
  rw [List.append_nil]
  apply hlogged.tell hread
  intro hjson
  rw [said_tell_pure, hjson]
  cases current with
  | ok m => rfl
  | error e => rfl

theorem tells_discovered {ids : List UInt64} (h : Runs node s (discovered ctx reader) ids log s') :
    Tells ctx reader node s (discovered ctx reader) discovery [] log s' := by
  rcases h.of_bind with ⟨outcome, first, rest, s₁, hread, hrest, rfl⟩
  have hlogged := Tells.of_logged ctx (d := reader.readUnfinished)
    (Reader.readUnfinished_mentioned hread.of_mapNotes).attempted
  cases outcome with
  | ok ids =>
      rcases hrest.of_pure with ⟨-, rfl, rfl⟩
      rw [List.append_nil]
      exact hlogged.tell hread fun _ => rfl
  | error e =>
      rcases ((runs_tell _).of_silent_bind hrest).of_pure with ⟨-, rfl, rfl⟩
      rw [List.append_nil]
      apply hlogged.tell hread
      intro hjson
      rw [said_tell_pure, hjson]
      rfl

/-!
# What is left for the report
-/

/-- A dialogue first makes some attempts and then others, the failures of which are in its report. A
person is told of all these failures on the way or with the report. -/
def Divides (ctx : Context) (reader : Reader) (node : Node σ) (s : σ) (d : Dialogue Printed Report)
    (early late : List Attempt) (report : Report) (log : List Exchange) (s' : σ) : Prop :=
  exists told first rest s₁, log = first ++ rest ∧ Attempted reader node s early told first s₁ ∧
    Mentioned reader node s₁ late report.mentions rest s' ∧
    (ctx.json = false ->
      said node s d ++ report.texts = told ++ report.mentions.map Mention.text)

namespace Divides

variable {d : Dialogue Printed Report} {early late : List Attempt} {report : Report}

theorem tells (h : Divides ctx reader node s d early late report log s') :
    Tells ctx reader node s d (early ++ late) report.texts log s' := by
  rcases h with ⟨told, first, rest, s₁, rfl, hearly, hlate, htexts⟩
  exact ⟨_, hearly.append hlate.attempted, htexts⟩

/-- Without attempts in front, all is left for the report. -/
theorem alone (hsaid : said node s d = [])
    (hlate : Mentioned reader node s late report.mentions log s')
    (htexts : report.mentions.map Mention.text = report.texts) :
    Divides ctx reader node s d [] late report log s' := by
  refine ⟨[], [], log, s, rfl, .nil s, hlate, fun _ => ?_⟩
  rw [hsaid, htexts]

theorem bind {prepare : Dialogue Printed β} {b : β} {f : β -> Dialogue Printed Report}
    {first rest : List Exchange} {s₁ : σ} (hrun : Runs node s prepare b first s₁)
    (hearly : Tells ctx reader node s prepare early [] first s₁) (hsaid : said node s₁ (f b) = [])
    (hlate : Mentioned reader node s₁ late report.mentions rest s')
    (htexts : report.mentions.map Mention.text = report.texts) :
    Divides ctx reader node s (prepare >>= f) early late report (first ++ rest) s' := by
  rcases hearly with ⟨told, hattempted, htold⟩
  refine ⟨told, first, rest, s₁, rfl, hattempted, hlate, fun hjson => ?_⟩
  rw [said_bind hrun, hsaid, htexts, htold hjson]

end Divides

theorem said_logged_bind_pure (d : Dialogue Log.Record α) (g : α -> β) :
    said node s (logged d >>= fun a => pure (g a)) = [] := by
  rw [bind_pure_comp, said_map, said_logged]

/-!
# Lookups
-/

theorem said_single_bind_pure (op : Operation) (call : Dialogue Log.Record (Outcome α))
    (g : Outcome α -> β) : said node s (single ctx op call >>= fun a => pure (g a)) = [] := by
  rw [bind_pure_comp, said_map, single, said_bind (runs_tell _), said_logged, said_tell]
  split
  · rfl
  · rfl

section Lookups

variable {op : UInt64 -> Operation} {call : UInt64 -> Dialogue Log.Record (Outcome α)}
  {shown : Outcome α -> Report} {report : Report}
  (hcall : forall {id : UInt64} {s s' : σ} {outcome : Outcome α} {log : List Exchange},
    Runs node s (call id) outcome log s' ->
      Mentioned reader node s [.read (op id)] (shown outcome).mentions log s')
  (htexts : forall outcome, (shown outcome).mentions.map Mention.text = (shown outcome).texts)

include hcall htexts

/-- With an id that is given, a lookup attempts its call. -/
theorem divides_given {id : UInt64}
    (h : Runs node s (do
      let id ← pure id
      return shown (← single ctx (op id) (call id))) report log s') :
    Divides ctx reader node s (do
      let id ← pure id
      return shown (← single ctx (op id) (call id))) [] [.read (op id)] report log s' := by
  rw [pure_bind] at h ⊢
  rcases h.of_bind_pure with ⟨outcome, hread, rfl⟩
  exact .alone (said_single_bind_pure _ _ _) (hcall (runs_of_single hread)) (htexts outcome)

/-- With an id that it has to find out, it attempts before its call what finding it out does. -/
theorem divides_found {find : Dialogue Printed Defaults} {field : Defaults -> UInt64}
    {finding : Defaults -> List Attempt}
    (hfind : forall {ids : Defaults} {s₁ : σ} {idLog : List Exchange},
      Runs node s find ids idLog s₁ -> Tells ctx reader node s find (finding ids) [] idLog s₁)
    (h : Runs node s (do
      let id ← field <$> find
      return shown (← single ctx (op id) (call id))) report log s') :
    exists ids, Divides ctx reader node s (do
      let id ← field <$> find
      return shown (← single ctx (op id) (call id))) (finding ids) [.read (op (field ids))] report
      log s' := by
  rcases h.of_bind with ⟨id, idLog, callLog, s₁, hid, hrest, rfl⟩
  rcases hid.of_map with ⟨ids, hids, rfl⟩
  rcases hrest.of_bind_pure with ⟨outcome, hread, rfl⟩
  exact ⟨ids, .bind hid ((hfind hids).map field) (said_single_bind_pure _ _ _)
    (hcall (runs_of_single hread)) (htexts outcome)⟩

end Lookups

/-!
# Surveys
-/

/-- A survey with the current ids attempts what finding these out does, and then its own. -/
theorem divides_surveyed {survey : Defaults -> Dialogue Log.Record β} {shown : β -> Report}
    {report : Report} {surveyed : Defaults -> List Attempt}
    (hsurvey : forall {ids : Defaults} {s s' : σ} {results : β} {log : List Exchange},
      Runs node s (survey ids) results log s' ->
        Mentioned reader node s (surveyed ids) (shown results).mentions log s')
    (htexts : forall results, (shown results).mentions.map Mention.text = (shown results).texts)
    (h : Runs node s (do return shown (← logged (survey (← resolve ctx reader)))) report log s') :
    exists ids, Divides ctx reader node s
      (do return shown (← logged (survey (← resolve ctx reader)))) (resolution ids) (surveyed ids)
      report log s' := by
  rcases h.of_bind with ⟨ids, first, rest, s₁, hresolve, hrest, rfl⟩
  rcases hrest.of_bind_pure with ⟨results, hresults, rfl⟩
  exact ⟨ids, .bind hresolve (tells_resolve hresolve) (said_logged_bind_pure _ _)
    (hsurvey hresults.of_mapNotes) (htexts results)⟩

/-!
# The full run
-/

section Survey

variable {options : SuiteOptions} {chain : ChainStatus} {phases : List Phase} {report : SuiteReport}
  (h : Runs node s (Suite.survey reader options chain phases) report log s')

include h

/-- For a person a survey prints the lines of its phases. -/
theorem linesOf_survey (hjson : ctx.json = false) (functions : List String) :
    linesOf node s ((Suite.survey reader options chain phases).expandNotes (heard ctx functions)) =
      Phase.all.tail.flatMap fun phase =>
        ctx.eventLines functions (.started phase) ++
          ctx.eventLines functions (Suite.result report phase) := by
  have hevents (notes : List Suite.Note) :
      Program.lines (notes.flatMap (heard ctx functions)) =
        (notes.filterMap Suite.Note.event?).flatMap (ctx.eventLines functions) := by
    induction notes with
    | nil => rfl
    | cons n notes ih =>
        rw [List.flatMap_cons, Program.lines_append, ih]
        cases n with
        | log record => rfl
        | phase event =>
            have hheard : heard ctx functions (.phase event) =
                (ctx.eventLines functions event).map .line := by
              rw [heard, hjson]
              rfl
            rw [hheard, Program.lines_map_line]
            rfl
  rw [linesOf, notes_expandNotes, hevents, Suite.events_of_survey h, List.flatMap_assoc]
  simp only [List.flatMap_cons, List.flatMap_nil, List.append_nil]

theorem said_survey (hjson : ctx.json = false) (functions : List String) :
    said node s ((Suite.survey reader options chain phases).expandNotes (heard ctx functions)) =
      Suite.texts report := by
  rw [said, linesOf_survey h hjson, Terminal.Line.failureTexts_flatMap]
  simp only [failureTexts_append, Context.failureTexts_eventLines]
  rfl

theorem divides_survey (functions : List String) :
    exists s₁, Divides ctx reader node s
      (Report.suite <$>
        (Suite.survey reader options chain phases).expandNotes (heard ctx functions)) []
      (Suite.attempts report.defaults options.iterations report.crossReference.traces)
      (.suite report) log s₁ := by
  rcases Suite.mentioned_of_surveys (Suite.surveys_of_survey h).2.2 with ⟨s₁, hmentioned⟩
  refine ⟨s₁, [], [], log, s, rfl, .nil s, hmentioned, fun hjson => ?_⟩
  rw [said_map, said_survey h hjson, Report.texts, Report.mentions, Suite.texts_mentions,
    List.append_nil]
  rfl

end Survey

/-!
# All commands
-/

/-- A connected command first makes the attempts that it needs for its ids, if any, and then its own;
the failures of these are in its report. -/
theorem divides_gather {chain : ChainStatus} {command : Command} {report : Report}
    (h : Runs node s (gather ctx reader chain command) report log s') :
    exists ids s₁, Divides ctx reader node s (gather ctx reader chain command)
      (preparation ids command) (ownAttempts ctx.settings.iterations ids report.traces command)
      report log s₁ := by
  cases command with
  | run =>
      rcases h.of_map with ⟨suite, hsurvey, rfl⟩
      rcases divides_survey hsurvey.of_expandNotes reader.interface.functionNames
        with ⟨s₁, hdivides⟩
      exact ⟨suite.defaults, s₁, hdivides⟩
  | probe =>
      rcases h.of_pure with ⟨rfl, rfl, rfl⟩
      exact ⟨.initial, s, .alone rfl (.nil s) rfl⟩
  | debug =>
      rcases ((runs_tell _).of_silent_bind h).of_bind_pure with ⟨outcome, hinfo, rfl⟩
      refine ⟨.initial, s', .alone ?_ (Reader.accountInfo_mentioned hinfo.of_mapNotes)
        (Report.texts_mentions rfl)⟩
      rw [gather, said_bind (runs_tell _), said_logged_bind_pure, said_tell]
      split
      · rfl
      · rfl
  | unfinished =>
      rcases h.of_bind_pure with ⟨outcome, hread, rfl⟩
      exact ⟨.initial, s', .alone (said_single_bind_pure _ _ _)
        (Reader.readUnfinished_mentioned (runs_of_single hread)) (Report.texts_mentions rfl)⟩
  | fixture given =>
      cases given with
      | some id =>
          exact ⟨.initial, s',
            divides_given Reader.readMatch_mentioned (fun _ => Report.texts_mentions rfl) h⟩
      | none =>
          rcases divides_found Reader.readMatch_mentioned (fun _ => Report.texts_mentions rfl)
            tells_discover h with ⟨ids, hdivides⟩
          exact ⟨ids, s', hdivides⟩
  | league given =>
      cases given with
      | some id =>
          exact ⟨.initial, s',
            divides_given Reader.readLeague_mentioned (fun _ => Report.texts_mentions rfl) h⟩
      | none =>
          rcases divides_found Reader.readLeague_mentioned (fun _ => Report.texts_mentions rfl)
            tells_resolve h with ⟨ids, hdivides⟩
          exact ⟨ids, s', hdivides⟩
  | team given =>
      cases given with
      | some id =>
          exact ⟨.initial, s',
            divides_given Reader.readTeam_mentioned (fun _ => Report.texts_mentions rfl) h⟩
      | none =>
          rcases divides_found Reader.readTeam_mentioned (fun _ => Report.texts_mentions rfl)
            tells_resolve h with ⟨ids, hdivides⟩
          exact ⟨ids, s', hdivides⟩
  | gas =>
      rcases divides_surveyed Survey.gas_mentioned (fun _ => Report.texts_mentions rfl) h with
        ⟨ids, hdivides⟩
      exact ⟨ids, s', hdivides⟩
  | raw =>
      rcases divides_surveyed Survey.rawCalls_mentioned (fun _ => Report.texts_mentions rfl) h with
        ⟨ids, hdivides⟩
      exact ⟨ids, s', hdivides⟩
  | bench =>
      rcases divides_surveyed Survey.latency_mentioned (fun _ => Report.texts_mentions rfl) h with
        ⟨ids, hdivides⟩
      exact ⟨ids, s', hdivides⟩
  | cross given =>
      rcases h.of_bind with ⟨ids, first, rest, s₁, hwalked, hrest, rfl⟩
      rcases hrest.of_bind_pure with ⟨walk, hwalk, rfl⟩
      have hmentioned := Walk.run_mentioned hwalk.of_mapNotes
      cases given with
      | cons id given =>
          rcases hwalked.of_pure with ⟨rfl, rfl, rfl⟩
          exact ⟨.initial, s', .bind hwalked (.pure _) (said_logged_bind_pure _ _) hmentioned
            (Report.texts_mentions rfl)⟩
      | nil =>
          rcases hwalked.of_bind_pure with ⟨found, hdiscovered, rfl⟩
          have hfound := (tells_discovered hdiscovered).bind_pure
            fun found => Walk.workingSet found Walk.defaultSize
          exact ⟨.initial, s', .bind hwalked hfound (said_logged_bind_pure _ _) hmentioned
            (Report.texts_mentions rfl)⟩

/-- A connected command makes its attempts, and a person is told of some of their failures on the way
and of the others by its report. -/
theorem tells_gather {chain : ChainStatus} {command : Command} {report : Report}
    (h : Runs node s (gather ctx reader chain command) report log s') :
    exists ids s₁, Tells ctx reader node s (gather ctx reader chain command)
      (attempts ctx.settings.iterations ids report.traces command) report.texts log s₁ := by
  rcases divides_gather h with ⟨ids, s₁, hdivides⟩
  have htells := hdivides.tells
  rw [← attempts_eq_append] at htells
  exact ⟨ids, s₁, htells⟩

/-!
# What is counted
-/

/-- The line that counts what a walk has left: its traces, and the steps that have failed. -/
def tally (traces : List MatchTrace) : Line :=
  let count := toString traces.length ++ " matches cross-referenced"
  let failed := (traces.flatMap MatchTrace.errors).length
  if failed = 0 then .success count
  else .warning (count ++ ", " ++ toString failed ++ " lookups failed")

/-- The line that counts the failures of a full run. -/
def summary (failures : Nat) : Line :=
  .success (if failures = 0 then "All tests completed!"
    else "All tests completed with " ++ toString failures ++ " non-fatal failures.")

/-- The lines with which a command ends that counts its failures. -/
def closing (traces : List MatchTrace) (failures : Nat) : Command -> List Line
  | .run => [tally traces, .blank, summary failures]
  | .cross _ => [tally traces]
  | _ => []

theorem tally_suffix_lines (report : CrossReference) :
    [tally report.traces] <:+ report.lines := by
  have hfailures : (report.traces.flatMap MatchTrace.errors).length = report.failures := by
    rw [← report.length_texts, ← List.length_map ProbeError.message, List.map_flatMap]
    rfl
  rw [CrossReference.lines, tally, hfailures]
  exact List.suffix_append _ _

/-- Only a full run and a walk leave traces. -/
theorem gather_gives_traces (ctx : Context) (reader : Reader) (chain : ChainStatus)
    {command : Command} (hrun : command ≠ .run) (hcross : forall ids, command ≠ .cross ids) :
    (gather ctx reader chain command).Gives fun report => report.traces = [] := by
  cases command with
  | run => exact absurd rfl hrun
  | cross ids => exact absurd rfl (hcross ids)
  | probe => exact .pure rfl
  | unfinished => exact .of_rest fun _ => .pure rfl
  | _ => exact .of_rest fun _ => .of_rest fun _ => .pure rfl

/-- The walk is the last phase of a run. -/
theorem suffix_flatMap_phases (f : Phase -> List β) :
    f .crossReference <:+ Phase.all.tail.flatMap f := by
  have hlast : Phase.all.tail = Phase.all.tail.dropLast ++ [.crossReference] := rfl
  rw [hlast, List.flatMap_append, List.flatMap_singleton]
  exact List.suffix_append _ _

section Counts

variable {chain : ChainStatus} {command : Command} {report : Report} (hjson : ctx.json = false)
  (h : Runs node s (gather ctx reader chain command) report log s')

include hjson h

/-- The failures of a walk are told of last. -/
theorem traces_suffix_told :
    report.traces.flatMap MatchTrace.texts <:+
      said node s (gather ctx reader chain command) ++ report.texts := by
  have hother (hrun : command ≠ .run) (hcross : forall ids, command ≠ .cross ids) :
      report.traces.flatMap MatchTrace.texts <:+
        said node s (gather ctx reader chain command) ++ report.texts := by
    rw [(gather_gives_traces ctx reader chain hrun hcross).of_runs h]
    exact List.nil_suffix
  cases command with
  | run =>
      rcases h.of_map with ⟨suite, hsurvey, rfl⟩
      rw [gather, said_map, said_survey hsurvey.of_expandNotes hjson, Report.texts, List.append_nil]
      exact suffix_flatMap_phases fun phase => (Suite.result suite phase).texts
  | cross ids =>
      rcases h.of_bind with ⟨walked, first, rest, s₁, -, hrest, -⟩
      rcases hrest.of_bind_pure with ⟨walk, -, rfl⟩
      exact List.suffix_append _ _
  | _ =>
      apply hother
      · intro heq
        cases heq
      · intro ids heq
        cases heq

/-- A command ends with its counts: those of the traces, and of all that it has told of. -/
theorem closing_suffix_lines :
    closing report.traces (said node s (gather ctx reader chain command) ++
        report.texts).length command <:+
      linesOf node s (gather ctx reader chain command) ++ report.lines := by
  cases command with
  | run =>
      rcases h.of_map with ⟨suite, hsurvey, rfl⟩
      have hsurvey := hsurvey.of_expandNotes
      rw [gather, said_map, said_survey hsurvey hjson, Report.texts, List.append_nil,
        ← suite.failures_eq_length, linesOf_map, linesOf_survey hsurvey hjson]
      have htally : [tally suite.crossReference.traces] <:+
          ctx.eventLines reader.interface.functionNames (.started .crossReference) ++
            ctx.eventLines reader.interface.functionNames
              (.crossReference suite.crossReference) :=
        (tally_suffix_lines suite.crossReference).trans (List.suffix_append _ _)
      rcases htally.trans (suffix_flatMap_phases fun phase =>
          ctx.eventLines reader.interface.functionNames (.started phase) ++
            ctx.eventLines reader.interface.functionNames (Suite.result suite phase))
        with ⟨before, hlines⟩
      rw [← hlines, List.append_assoc]
      exact List.suffix_append _ _
  | cross ids =>
      rcases h.of_bind with ⟨walked, first, rest, s₁, -, hrest, -⟩
      rcases hrest.of_bind_pure with ⟨walk, -, rfl⟩
      apply List.IsSuffix.trans _ (List.suffix_append _ _)
      exact (tally_suffix_lines walk).trans (List.suffix_append _ _)
  | _ => exact List.nil_suffix

end Counts

end Preparations

end Command

/-!
# The whole program
-/

namespace Program

/-- What is printed tells of the failures, each once and in order, and counts them where the command
does that. -/
structure TellsOf (ctx : Context) (reader : Reader) (command : Command) (report : Report)
    (failures : List (Attempt × ProbeError)) (printed : List Line) : Prop where
  /-- The lines that tell of failures are those of the failed attempts. -/
  texts : failureTexts printed = failures.map fun failure => failure.2.message
  /-- A line that tells of a failure ends with the text of the failure. -/
  shown : forall line, line ∈ printed -> forall text, line.failureText? = some text ->
    exists before, line.text false = before ++ text ++ "\n"
  /-- Every other line is about no failure. -/
  plain : forall line, line ∈ printed -> line.failureText? = none -> line.Plain ctx reader
  /-- A failure is told of by what was attempted, and by the reason why it failed. -/
  named : forall failure, failure ∈ failures -> failure.1.NamedBy failure.2
  /-- The failed steps of a walk are told of last. -/
  traces : report.traces.flatMap MatchTrace.texts <:+ failures.map fun failure => failure.2.message
  /-- The counts are those of the traces, of their failed steps, and of all that is told of. -/
  closing : command.closing report.traces failures.length <:+ printed

/-- A program that is connected prints for a person what has failed: the lines that tell of failures
are in one-to-one correspondence with the attempts of its command that fail, in order. -/
theorem execution_failures (env : String -> Option String) {files : String -> Except String String}
    {arguments : Arguments} {settings : Settings} {endpoint : Endpoint} {reader : Reader}
    (hsettings : Resolves files arguments settings)
    (hbuilds : Builds files settings endpoint reader) (hjson : arguments.json = false)
    {node : Node σ} {s s₁ : σ} {chain : ChainStatus} {probeLog : List Exchange}
    (hprobe : Runs node s Reader.probe (.ok chain) probeLog s₁) :
    let ctx := context arguments settings
    let run := (execution env files arguments).run node s
    exists report ids failures log s',
      ((dialogue arguments settings (.ok (endpoint, reader))).run node s).value.outcome =
        .ok report ∧
      run.exchanges = probeLog ++ log ∧
      Attempts reader node s₁
        (arguments.command.attempts settings.iterations ids report.traces) failures log s' ∧
      TellsOf ctx reader arguments.command report failures (lines run.notes) := by
  intro ctx run
  have hcommand := Runs.self node s (Command.execute ctx (.ok reader) arguments.command)
  rcases Command.execute_cases hcommand with ⟨probed, probeLog', log, s₂, hprobed, hlog, hrest⟩
  rcases hprobe.unique hprobed with ⟨rfl, rfl, rfl⟩
  rcases hrest with ⟨report, hending, hgather⟩
  rw [hending, hlog] at hcommand
  rcases Command.tells_gather hgather with ⟨ids, s', texts, ⟨failures, hattempts, rfl⟩, htexts⟩
  have htexts := htexts hjson
  have hrun : Runs node s (execution env files arguments) _ _ _ :=
    runs_execution_of_builds hsettings hbuilds hcommand
  have hdialogue : Runs node s (dialogue arguments settings (.ok (endpoint, reader))) _ _ _ :=
    runs_dialogue hcommand
  refine ⟨report, ids, failures, log, s', congrArg Ending.outcome hdialogue.value, hrun.exchanges,
    hattempts, ?_⟩
  have hlines : lines run.notes =
      Command.linesOf node s (Command.execute ctx (.ok reader) arguments.command) :=
    lines_execution_of_builds hsettings hbuilds
  -- Nothing is told of before the command goes on from the probe.
  have hopening : failureTexts (Command.openingLines ctx arguments.command ++ [chain.line]) = [] := by
    unfold Command.openingLines
    split
    · split
      · rfl
      · rfl
    · split
      · rfl
      · rfl
  have hprinted := Command.linesOf_execute_ok hprobe hgather
  rw [Report.ending, show ctx.json = false from hjson] at hprinted
  change _ = _ ++ [chain.line] ++ (_ ++ report.lines) at hprinted
  rw [hlines]
  constructor
  · rw [hprinted, failureTexts_append, hopening, failureTexts_append, report.failureTexts_lines]
    exact htexts
  · exact fun line _ text => Terminal.Line.text_of_failureText?
  · exact Command.accounted_linesOf_execute hjson hprobe hgather
  · exact hattempts.named
  · rw [← htexts]
    exact Command.traces_suffix_told hjson hgather
  · rw [← List.length_map, ← htexts, hprinted]
    exact (Command.closing_suffix_lines hjson hgather).trans (List.suffix_append _ _)

/-- The node is too busy for the first match and for the home team of the second one, and what it
answers for the league and for the away team is no league and no team. -/
theorem execution_failures_flaky :
    let missing : String -> Except String String := fun path => .error path
    let arguments : Arguments := .loopback false (.cross [5, 7])
    let reader : Reader := ⟨.embedded, .precompile⟩
    let probeLog : List Exchange := [⟨.blockNumber, .ok 1⟩, ⟨.chainId, .ok 31337⟩]
    let ctx := context arguments loopbackSettings
    let run := (execution (fun _ => none) missing arguments).run Node.flaky 0
    (Resolves missing arguments loopbackSettings ∧
      Builds missing loopbackSettings .loopback reader ∧ arguments.json = false ∧
      Runs Node.flaky 0 Reader.probe (.ok ⟨31337, 1⟩) probeLog 2) ∧
    (exists report ids failures log s',
      ((dialogue arguments loopbackSettings (.ok (.loopback, reader))).run
        Node.flaky 0).value.outcome = .ok report ∧
      run.exchanges = probeLog ++ log ∧
      Attempts reader Node.flaky 2
        (arguments.command.attempts loopbackSettings.iterations ids report.traces) failures log s' ∧
      TellsOf ctx reader arguments.command report failures (lines run.notes)) ∧
    failureTexts (lines run.notes) = ["getMatch(5) failed: busy",
      "getLeague(39) failed: decode: Invalid data", "getTeam(1) failed: busy",
      "getTeam(2) failed: decode: Invalid data"] ∧
    (lines run.notes).getLast?.map (Line.text false) =
      some "! 2 matches cross-referenced, 4 lookups failed\n" := by
  intro missing arguments reader probeLog ctx run
  have hsettings : Resolves missing arguments loopbackSettings := resolves_loopback _ _ _
  have hbuilds : Builds missing loopbackSettings .loopback reader := builds_loopback _
  have hprobe : Runs Node.flaky 0 Reader.probe (.ok ⟨31337, 1⟩) probeLog 2 := ⟨rfl, rfl, rfl⟩
  have hlines : lines run.notes =
      Command.linesOf Node.flaky 0 (Command.execute ctx (.ok reader) (.cross [5, 7])) :=
    lines_execution_of_builds hsettings hbuilds
  refine ⟨⟨hsettings, hbuilds, rfl, hprobe⟩, ?_, ?_, ?_⟩
  · exact execution_failures (fun _ => none) hsettings hbuilds rfl hprobe
  · rw [hlines]
    decide +kernel
  · rw [hlines]
    decide +kernel

end Program

end FixtureProbe
