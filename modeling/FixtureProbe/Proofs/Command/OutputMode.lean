import FixtureProbe.Proofs.Command.Course
import FixtureProbe.Proofs.Probe.Untimed

/-!
# What is asked does not depend on how it is shown

A command looks again and again for whom it prints: a person, who is told of every step, or a program
that wants one document. It may go another way there, but each of its ways asks for the same and ends
with the same exit code. Not even the clock matters, which shows other times in another run: latencies
are sampled with it, but no request and no exit code depends on what it shows.
-/

namespace FixtureProbe

open Dialogue
open Terminal (Line)

variable {α β σ τ : Type}

namespace Command

/-!
# Preparations and single calls

Two contexts may differ in what is printed, so all dialogues are compared with themselves in another
context.
-/

theorem alike_tell_bind {V : β -> β -> Prop} (ls ls' : List Line)
    {f g : Unit -> Dialogue Printed β} (h : Alike V (f ()) (g ())) :
    Alike V (tell ls >>= f) (tell ls' >>= g) :=
  (Alike.noteAll _ _).bind fun _ _ _ => h

theorem alike_logged {d : Dialogue Log.Record α} (hd : d.Clockless) :
    Alike Eq (logged d) (logged d) :=
  hd.alike.mapNotes _ _

section Contexts

variable (ctx ctx' : Context) (reader : Reader)

theorem discover_alike : Alike Eq (discover ctx reader) (discover ctx' reader) := by
  apply (alike_logged (reader.read_clockless _ _)).bind
  rintro discovery _ rfl
  cases discovery with
  | error e => exact alike_tell_bind _ _ (.pure rfl)
  | ok ids => exact alike_tell_bind _ _ (.pure rfl)

theorem resolve_alike : Alike Eq (resolve ctx reader) (resolve ctx' reader) := by
  apply (discover_alike ctx ctx' reader).bind
  rintro defaults _ rfl
  apply (alike_logged (Survey.readCurrentMatch_clockless reader defaults)).bind
  rintro current _ rfl
  exact alike_tell_bind _ _ (.pure rfl)

theorem idOr_alike (id : Option UInt64) {find find' : Dialogue Printed Defaults}
    (h : Alike Eq find find') (field : Defaults -> UInt64) :
    Alike Eq (idOr id (field <$> find)) (idOr id (field <$> find')) := by
  cases id with
  | some id => exact .pure rfl
  | none =>
      change Alike Eq (field <$> find) (field <$> find')
      rw [← bind_pure_comp, ← bind_pure_comp]
      apply h.bind
      rintro defaults _ rfl
      exact .pure rfl

theorem single_alike (op : Operation) {call : Dialogue Log.Record (Outcome α)}
    (hcall : call.Clockless) : Alike Eq (single ctx op call) (single ctx' op call) :=
  alike_tell_bind _ _ (alike_logged hcall)

theorem walkedIds_alike (ids : List UInt64) :
    Alike Eq (walkedIds ctx reader ids) (walkedIds ctx' reader ids) := by
  unfold walkedIds
  split
  · have hdiscovered : Alike Eq (discovered ctx reader) (discovered ctx' reader) := by
      apply (alike_logged (reader.read_clockless _ _)).bind
      rintro discovery _ rfl
      cases discovery with
      | ok ids => exact .pure rfl
      | error e => exact alike_tell_bind _ _ (.pure rfl)
    apply hdiscovered.bind
    rintro ids _ rfl
    exact .pure rfl
  · exact .pure rfl

end Contexts

/-!
# Commands
-/

/-- Two reports say the same about whether a lookup has failed. -/
def SameEnd (report report' : Report) : Prop :=
  report.isFailure = report'.isFailure

theorem alike_found {d d' : Dialogue Printed α} (h : Alike Eq d d') (report : α -> Report) :
    Alike SameEnd (do return report (← d)) (do return report (← d')) := by
  apply h.bind
  rintro a _ rfl
  exact .pure rfl

section Contexts

variable {ctx ctx' : Context} (hsettings : ctx.settings = ctx'.settings) (reader : Reader)
  (chain : ChainStatus)

/-- Whatever is surveyed with the ids that a command finds out. -/
theorem alike_surveyed {survey : Defaults -> Dialogue Log.Record α}
    (h : forall defaults, (survey defaults).Clockless) (report : α -> Report) :
    Alike SameEnd (do return report (← logged (survey (← resolve ctx reader))))
      (do return report (← logged (survey (← resolve ctx' reader)))) := by
  apply (resolve_alike ctx ctx' reader).bind
  rintro defaults _ rfl
  exact alike_found (alike_logged (h defaults)) report

include hsettings

/-- What a connected command asks for up to its report. -/
theorem gather_alike (command : Command) :
    Alike SameEnd (gather ctx reader chain command) (gather ctx' reader chain command) := by
  cases command with
  | run =>
      unfold gather
      rw [hsettings, ← bind_pure_comp, ← bind_pure_comp]
      apply ((Suite.survey_alike reader _ chain _).expandEach _ _).bind
      intro report report' _
      exact .pure rfl
  | probe => exact .pure rfl
  | debug =>
      apply alike_tell_bind
      exact alike_found (alike_logged reader.accountInfo_clockless) _
  | unfinished => exact alike_found (single_alike ctx ctx' _ (reader.read_clockless _ _)) _
  | fixture id =>
      apply (idOr_alike id (discover_alike ctx ctx' reader) _).bind
      rintro id _ rfl
      exact alike_found (single_alike ctx ctx' _ (reader.read_clockless _ _)) _
  | league id =>
      apply (idOr_alike id (resolve_alike ctx ctx' reader) _).bind
      rintro id _ rfl
      exact alike_found (single_alike ctx ctx' _ (reader.read_clockless _ _)) _
  | team id =>
      apply (idOr_alike id (resolve_alike ctx ctx' reader) _).bind
      rintro id _ rfl
      exact alike_found (single_alike ctx ctx' _ (reader.read_clockless _ _)) _
  | gas => exact alike_surveyed reader (Survey.gas_clockless reader) _
  | raw => exact alike_surveyed reader (Survey.rawCalls_clockless reader) _
  | bench =>
      -- Only here the two reports differ, but in nothing that an exit code could follow from.
      apply (resolve_alike ctx ctx' reader).bind
      rintro defaults _ rfl
      rw [hsettings]
      apply ((Survey.latency_alike reader defaults ctx'.settings.iterations).mapNotes _ _).bind
      intro reports reports' _
      exact .pure rfl
  | cross ids =>
      apply (walkedIds_alike ctx ctx' reader ids).bind
      rintro ids _ rfl
      exact alike_found (alike_logged (Walk.run_clockless reader ids)) _

/-- A command asks the same and ends with the same exit code for whomever it prints. -/
theorem execute_alike (reader : Except ProbeError Reader) (command : Command) :
    Alike (fun ending ending' => ending.code = ending'.code) (execute ctx reader command)
      (execute ctx' reader command) := by
  have hgiveUp (e : ProbeError) : Alike (fun ending ending' => ending.code = ending'.code)
      (giveUp ctx e) (giveUp ctx' e) := alike_tell_bind _ _ (.pure rfl)
  cases reader with
  | error e =>
      rw [execute_error, execute_error]
      exact alike_tell_bind _ _ (hgiveUp e)
  | ok reader =>
      rw [execute_ok, execute_ok]
      apply (Alike.noteAll _ _).bind
      intro _ _ _
      apply (alike_logged Reader.probe_clockless).bind
      rintro probed _ rfl
      cases probed with
      | error e => exact hgiveUp e
      | ok chain =>
          apply alike_tell_bind
          apply (gather_alike hsettings reader chain command).bind
          intro report report' hreport
          apply alike_tell_bind
          apply Alike.pure
          rw [Ending.of, Ending.of, exitCode, exitCode, hreport]

end Contexts

end Command

/-!
# The whole program
-/

/-- Whether the output is for a person or for a program, a run asks the node for the same things in
the same order, hears the same, and ends with the same exit code, even if the clock of the other run
shows other times. -/
theorem Program.execution_mode (env : String -> Option String)
    (files : String -> Except String String) (arguments : Arguments) {node : Node σ}
    {other : Node τ} {R : σ -> τ -> Prop} (hnodes : node.AnswersLike other R) {s : σ} {t : τ}
    (hstates : R s t) :
    let lines := (execution env files { arguments with json := false }).run node s
    let document := (execution env files { arguments with json := true }).run other t
    lines.requests = document.requests ∧ lines.exchanges = document.exchanges ∧
      lines.value = document.value := by
  intro lines document
  have hsame : lines.exchanges = document.exchanges ∧ lines.value = document.value := by
    unfold lines document
    cases hsettings : settings arguments (arguments.config.map files) with
    | error reason =>
        have hlines : Runs node s (execution env files { arguments with json := false }) 1 [] s :=
          runs_execution_of_error hsettings
        have hdocument :
            Runs other t (execution env files { arguments with json := true }) 1 [] t :=
          runs_execution_of_error hsettings
        rw [hlines.exchanges, hlines.value, hdocument.exchanges, hdocument.value]
        exact ⟨rfl, rfl⟩
    | ok settings =>
        -- The command is carried out for a person and for a program; the settings are the same.
        let reader := (build settings (settings.abiPath.map files)).map (·.2)
        have hlines : Runs node s (execution env files { arguments with json := false }) _ _ _ :=
          runs_execution hsettings (Runs.self node s
            (Command.execute ⟨settings, false⟩ reader arguments.command))
        have hdocument : Runs other t (execution env files { arguments with json := true }) _ _ _ :=
          runs_execution hsettings (Runs.self other t
            (Command.execute ⟨settings, true⟩ reader arguments.command))
        have hsame : (Context.mk settings false).settings = (Context.mk settings true).settings := rfl
        rcases (Command.execute_alike hsame reader arguments.command).run hnodes hstates
          with ⟨hexit, hexchanges, -⟩
        rw [hlines.exchanges, hlines.value, hdocument.exchanges, hdocument.value]
        exact ⟨hexchanges, hexit⟩
  refine ⟨?_, hsame.1, hsame.2⟩
  rw [Run.requests_eq_map_exchanges, Run.requests_eq_map_exchanges, hsame.1]

theorem Program.execution_mode_flaky :
    let arguments : Arguments := ⟨{}, none, false, false, false, .bench⟩
    let slow : Node Nat := { Node.flaky with time := fun count => (2 * count + 5, count) }
    let lines := (execution (fun _ => none) .error { arguments with json := false }).run .flaky 0
    let document := (execution (fun _ => none) .error { arguments with json := true }).run slow 0
    Node.flaky.AnswersLike slow Eq ∧ lines.requests = document.requests ∧
      lines.exchanges = document.exchanges ∧ lines.value = document.value := by
  intro arguments slow lines document
  have hslow : Node.flaky.AnswersLike slow Eq := Node.answersLike_clock (fun _ => rfl) _
  exact ⟨hslow, execution_mode (fun _ => none) .error arguments hslow rfl⟩

end FixtureProbe
