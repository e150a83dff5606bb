import OnboardStorage.Action
import OnboardStorage.Clock
import OnboardStorage.CommandLine.Arguments
import OnboardStorage.CommandLine.Log
import OnboardStorage.CommandLine.Tool
import OnboardStorage.Config
import OnboardStorage.Datum
import OnboardStorage.Datum.Holding
import OnboardStorage.DoublePrecision
import OnboardStorage.Emission
import OnboardStorage.FileTree
import OnboardStorage.Guard
import OnboardStorage.Host
import OnboardStorage.Layout.Config
import OnboardStorage.Layout.ConfigText
import OnboardStorage.Layout.Record
import OnboardStorage.Layout.Report
import OnboardStorage.Layout.Request
import OnboardStorage.Layout.Step
import OnboardStorage.Layout.Store
import OnboardStorage.Limits
import OnboardStorage.Loading
import OnboardStorage.Lookup
import OnboardStorage.LogFilter
import OnboardStorage.LogFilter.Reading
import OnboardStorage.Main
import OnboardStorage.Notice
import OnboardStorage.OrderedMap
import OnboardStorage.Packet
import OnboardStorage.PacketQueue
import OnboardStorage.PacketStore
import OnboardStorage.PacketStore.Admission
import OnboardStorage.PacketStore.Copy
import OnboardStorage.PacketStore.Summary
import OnboardStorage.Registry
import OnboardStorage.Rejection
import OnboardStorage.Report
import OnboardStorage.Request
import OnboardStorage.Router
import OnboardStorage.Script
import OnboardStorage.Service
import OnboardStorage.Service.Execution
import OnboardStorage.Service.Item
import OnboardStorage.Snapshot
import OnboardStorage.StoreId
import OnboardStorage.Text.Alphanumeric
import OnboardStorage.Text.Control
import OnboardStorage.Text.Json.Quoted
import OnboardStorage.Text.Json.Reading
import OnboardStorage.Text.Json.Writing
import OnboardStorage.Text.Pattern
import OnboardStorage.Text.Scan
import OnboardStorage.Text.Slice
import OnboardStorage.Text.Space
import OnboardStorage.Text.Toml.Line
import OnboardStorage.Text.Toml.Moment
import OnboardStorage.Text.Toml.Number
import OnboardStorage.Text.Toml.Quoted
import OnboardStorage.Text.Toml.Reading
import OnboardStorage.Text.Toml.Tree
import OnboardStorage.Text.Toml.Writing
import OnboardStorage.Window
import OnboardStorage.Proofs.Operation
import OnboardStorage.Proofs.Outcome
import OnboardStorage.Proofs.Soundness.Store
import OnboardStorage.Proofs.Soundness.Snapshot
import OnboardStorage.Proofs.Soundness.Run
import OnboardStorage.Proofs.BusyStore
import OnboardStorage.Proofs.Retention.History
import OnboardStorage.Proofs.Retention.Journal
import OnboardStorage.Proofs.Json.Quoted
import OnboardStorage.Proofs.Json.Number
import OnboardStorage.Proofs.Json.RoundTrip
import OnboardStorage.Proofs.Json.OneLine
import OnboardStorage.Proofs.Layout.Record
import OnboardStorage.Proofs.Layout.Store
import OnboardStorage.Proofs.Loading
import OnboardStorage.Proofs.Layout.Line
import OnboardStorage.Proofs.Layout.Request
import OnboardStorage.Proofs.Layout.Config
import OnboardStorage.Proofs.Layout.Lossless
import OnboardStorage.Proofs.FileTree
import OnboardStorage.Proofs.Replay
import OnboardStorage.Proofs.TwoPasses
import OnboardStorage.Proofs.StoreOrigin
import OnboardStorage.Proofs.Exclusion
import OnboardStorage.Proofs.Commands
import OnboardStorage.Proofs.Verdict.Grounds
import OnboardStorage.Proofs.Verdict.Decisions
import OnboardStorage.Proofs.Verdict.Law
import OnboardStorage.Proofs.FiniteMap
import OnboardStorage.Proofs.SlotTable
import OnboardStorage.Proofs.SlotService
import OnboardStorage.Proofs.Restoration
import OnboardStorage.Proofs.Batch
import OnboardStorage.Proofs.Locality
import OnboardStorage.Proofs.Commutation
import OnboardStorage.Proofs.Idempotence.Law
import OnboardStorage.Proofs.Settings.Field
import OnboardStorage.Proofs.Settings.Record
import OnboardStorage.Proofs.Settings.Law
import OnboardStorage.Proofs.RoutedStore
import OnboardStorage.Proofs.WiderPlatform
import OnboardStorage.Proofs.ReplayAccount
import OnboardStorage.Proofs.PacketStore.WindowCopy
import OnboardStorage.Proofs.PacketStore.Insertion
import OnboardStorage.Proofs.Filing
import OnboardStorage.Proofs.Acceptance
import OnboardStorage.Proofs.ByteOrder
import OnboardStorage.Proofs.ContentSummary
import OnboardStorage.Proofs.Reports
import OnboardStorage.Proofs.Creation
import OnboardStorage.Proofs.Toml.Quoted
import OnboardStorage.Proofs.Toml.Value
import OnboardStorage.Proofs.Toml.Document
import OnboardStorage.Proofs.Layout.ConfigText
import OnboardStorage.Proofs.ContentDeletion
import OnboardStorage.Proofs.RoutingTable
import OnboardStorage.Proofs.InitialRoutes
import OnboardStorage.Proofs.BoundedRegistry
