import RunHerald.Decimal.Binary64
import RunHerald.Decimal.Shortest
import RunHerald.Dictionary
import RunHerald.Digest.Sha256
import RunHerald.Error
import RunHerald.Json.Basic
import RunHerald.Json.Compact
import RunHerald.Json.Decode
import RunHerald.Json.Draft
import RunHerald.Json.Printer
import RunHerald.Json.Token
import RunHerald.Notification.Body
import RunHerald.Notification.Dispatch
import RunHerald.Notification.Payload
import RunHerald.Notification.Recorder
import RunHerald.Proofs.Reconcile.Coherence
import RunHerald.Proofs.Reconcile.GuardRetention
import RunHerald.Proofs.Reconcile.Interleaving
import RunHerald.Proofs.Reconcile.MarkerDelivery
import RunHerald.Proofs.Reconcile.Stages
import RunHerald.Proofs.Reconcile.TableRefinement
import RunHerald.Proofs.Run.DecisionTable
import RunHerald.Proofs.Store.History
import RunHerald.Proofs.Store.VersionIdentity
import RunHerald.Reconcile.Environment
import RunHerald.Reconcile.Invocation
import RunHerald.Reconcile.Outcome
import RunHerald.Rehearsal.Check
import RunHerald.Rehearsal.Fixture
import RunHerald.Rehearsal.Receiver
import RunHerald.Rehearsal.TracedStore
import RunHerald.Rehearsal.World
import RunHerald.Run.Basic
import RunHerald.Run.Codec
import RunHerald.Run.Document
import RunHerald.Run.Edit
import RunHerald.Run.Patch
import RunHerald.Run.Phase
import RunHerald.Run.Results
import RunHerald.Run.Written
import RunHerald.RunKey
import RunHerald.Secret
import RunHerald.Settings
import RunHerald.Store
import RunHerald.Table
import RunHerald.Telemetry
import RunHerald.Text.Base64
import RunHerald.Text.Blank
import RunHerald.Text.CombiningClass
import RunHerald.Text.Composed
import RunHerald.Text.Decomposition
import RunHerald.Text.Direction
import RunHerald.Text.Joining
import RunHerald.Text.Mark
import RunHerald.Text.Numeral
import RunHerald.Text.Quoted
import RunHerald.Text.Ranges
import RunHerald.Text.Utf8
import RunHerald.Text.Visible
import RunHerald.Time.Duration
import RunHerald.Time.Printer
import RunHerald.Time.Reader
import RunHerald.Time.Timestamp
import RunHerald.Url.Basic
import RunHerald.Url.Domain.Basic
import RunHerald.Url.Domain.Expanded
import RunHerald.Url.Domain.Folded
import RunHerald.Url.Domain.Label
import RunHerald.Url.Domain.Mapping
import RunHerald.Url.Domain.Refused
import RunHerald.Url.Host
import RunHerald.Url.Punycode
import RunHerald.Webhook.Config
import RunHerald.Webhook.Request
import RunHerald.Webhook.Setup
import RunHerald.Webhook.Sink
import RunHerald.Webhook.Status
import RunHerald.Proofs.Reconcile.CallDiscipline
import RunHerald.Proofs.Reconcile.Cancellation
import RunHerald.Proofs.Run.Editing
import RunHerald.Proofs.Rehearsal.HarmlessInterference
import RunHerald.Proofs.Rehearsal.Situation
import RunHerald.Proofs.Rehearsal.Visit
import RunHerald.Proofs.Rehearsal.Progress
import RunHerald.Proofs.Run.ResultReading
import RunHerald.Proofs.Rehearsal.Redelivery
import RunHerald.Proofs.Notification.Fingerprint
import RunHerald.Proofs.Settings.Loading
import RunHerald.Proofs.Store.PendingDeletion
import RunHerald.Proofs.Reconcile.NoSilentDrop
import RunHerald.Proofs.Telemetry.Counters
import RunHerald.Proofs.Telemetry.Ledger
import RunHerald.Proofs.Telemetry.Accounting
import RunHerald.Proofs.Telemetry.Severity
import RunHerald.Proofs.Reconcile.Likeness
import RunHerald.Proofs.Rehearsal.WireFrame
import RunHerald.Proofs.Webhook.TokenSecrecy
import RunHerald.Proofs.Rehearsal.Handling
import RunHerald.Proofs.Rehearsal.Independence
import RunHerald.Proofs.Reconcile.Announcements
import RunHerald.Proofs.Reconcile.ConflictBudget
import RunHerald.Proofs.Url.PlainHost
import RunHerald.Proofs.Url.ReadBack
import RunHerald.Proofs.Webhook.DeliveryLoop
import RunHerald.Proofs.Json.Decoding
import RunHerald.Proofs.Store.FinalizerProtection
import RunHerald.Proofs.Run.ResultGrammar
import RunHerald.Proofs.Run.RoundTrip
import RunHerald.Proofs.Settings.VariableRules
import RunHerald.Proofs.Run.KeyText
import RunHerald.Proofs.Text.Clipping
import RunHerald.Proofs.Store.Atomicity
import RunHerald.Proofs.Reconcile.UnusableStore
import RunHerald.Proofs.Rehearsal.QueuedFaults
import RunHerald.Proofs.Json.TextReadBack
import RunHerald.Proofs.Run.WrittenRecord
import RunHerald.Proofs.Notification.PayloadBody
