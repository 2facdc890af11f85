import TabCompletion.Main
import TabCompletion.SuiteBuilder
import TabCompletion.Transport.Basic
import TabCompletion.Transport.Scripted
import TabCompletion.Transport.Simulated
import TabCompletion.Proofs.Run.Statuses
import TabCompletion.Proofs.Transport.Ledger
import TabCompletion.Proofs.Session.LateAnswer
import TabCompletion.Proofs.Session.Independence
import TabCompletion.Proofs.Probe.Honesty
import TabCompletion.Proofs.Run.Progress
import TabCompletion.Proofs.Document.Suites
import TabCompletion.Proofs.Document.Identifiers
import TabCompletion.Proofs.Document.Values
import TabCompletion.Proofs.Document.Outcomes
import TabCompletion.Proofs.Document.Reports
import TabCompletion.Proofs.Document.Entries
import TabCompletion.Proofs.Document.Grammar
import TabCompletion.Proofs.Run.Isolation
import TabCompletion.Proofs.Document.Filling
import TabCompletion.Proofs.Run.ReadBack
import TabCompletion.Proofs.Transport.Cutting
import TabCompletion.Proofs.Prompt.Literal
import TabCompletion.Proofs.Prompt.Startup
import TabCompletion.Proofs.Session.Locale
import TabCompletion.Proofs.Matching.Granularity
import TabCompletion.Proofs.Probe.Classification
import TabCompletion.Proofs.Overrides
import TabCompletion.Proofs.FixtureShell.Certainty
import TabCompletion.Proofs.FixtureShell.Screen
import TabCompletion.Proofs.Probe.Retries
import TabCompletion.Proofs.Transport.Polling
import TabCompletion.Proofs.SuiteBuilder
import TabCompletion.Proofs.Text.WellFormed
import TabCompletion.Proofs.Text.Joining
import TabCompletion.Proofs.Text.Segments
import TabCompletion.Proofs.Text.Preview

