import FixtureProbe.Main
import FixtureProbe.Proofs.Probe.Suite
import FixtureProbe.Proofs.Probe.Tables
import FixtureProbe.Proofs.Precompile.Recognition
import FixtureProbe.Proofs.Precompile.Continuation
import FixtureProbe.Proofs.Precompile.Flattened
import FixtureProbe.Proofs.Precompile.IdList
import FixtureProbe.Proofs.Precompile.FieldOrder
import FixtureProbe.Proofs.Probe.Failures
import FixtureProbe.Proofs.Probe.Accounting
import FixtureProbe.Proofs.Node.Clock
import FixtureProbe.Proofs.Probe.Untimed
import FixtureProbe.Proofs.Probe.Timeline
import FixtureProbe.Proofs.Command.ZeroIds
import FixtureProbe.Proofs.Node.Stateless
import FixtureProbe.Proofs.Probe.Settled
import FixtureProbe.Proofs.Probe.Isolation
import FixtureProbe.Proofs.Probe.Consistency
import FixtureProbe.Proofs.Command.Resolution
import FixtureProbe.Proofs.Command.OutputMode
import FixtureProbe.Proofs.Command.ExitCode
import FixtureProbe.Proofs.Command.Document
import FixtureProbe.Proofs.Command.Failures
import FixtureProbe.Proofs.Command.DocumentFailures
import FixtureProbe.Proofs.Latency.Sampling
import FixtureProbe.Proofs.Probe.CallWays
import FixtureProbe.Proofs.Probe.CurrentIds
import FixtureProbe.Proofs.Precompile.EntryOrder
import FixtureProbe.Proofs.Precompile.DeclaredInputs
import FixtureProbe.Proofs.Probe.Numbers
import FixtureProbe.Proofs.Settings.Layers
