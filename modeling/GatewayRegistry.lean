import GatewayRegistry.Account
import GatewayRegistry.Backfill
import GatewayRegistry.Binary64.Basic
import GatewayRegistry.Binary64.Printer
import GatewayRegistry.CommandLine.Arguments
import GatewayRegistry.CommandLine.Command
import GatewayRegistry.CommandLine.Help
import GatewayRegistry.CommandLine.Option
import GatewayRegistry.CommandLine.Program
import GatewayRegistry.CommandLine.Usage
import GatewayRegistry.Config.Basic
import GatewayRegistry.Config.Load
import GatewayRegistry.Domain
import GatewayRegistry.Files.Content
import GatewayRegistry.Files.Path
import GatewayRegistry.Files.Tree
import GatewayRegistry.Json.Basic
import GatewayRegistry.Json.Decode
import GatewayRegistry.Json.DecodeError
import GatewayRegistry.Json.Overlay
import GatewayRegistry.Json.Printer
import GatewayRegistry.Json.Reader
import GatewayRegistry.Json.Token
import GatewayRegistry.Liveness.Cache
import GatewayRegistry.Liveness.Presence
import GatewayRegistry.Main
import GatewayRegistry.Platform
import GatewayRegistry.Proofs.Backfill.Assets
import GatewayRegistry.Proofs.Backfill.Due
import GatewayRegistry.Proofs.Backfill.Plan
import GatewayRegistry.Proofs.Backfill.Platforms
import GatewayRegistry.Proofs.Backfill.Rerun
import GatewayRegistry.Proofs.Call
import GatewayRegistry.Proofs.CommandLine.Command
import GatewayRegistry.Proofs.Concurrent.Backfill
import GatewayRegistry.Proofs.Concurrent.Job
import GatewayRegistry.Proofs.Concurrent.Reports
import GatewayRegistry.Proofs.Concurrent.Seeding
import GatewayRegistry.Proofs.Config.Defaults
import GatewayRegistry.Proofs.Config.Field
import GatewayRegistry.Proofs.Config.Layers
import GatewayRegistry.Proofs.Config.Merging
import GatewayRegistry.Proofs.Except
import GatewayRegistry.Proofs.Json.Documents
import GatewayRegistry.Proofs.Json.Objects
import GatewayRegistry.Proofs.Json.Overlay
import GatewayRegistry.Proofs.Json.ReadBack
import GatewayRegistry.Proofs.Json.Reader
import GatewayRegistry.Proofs.Json.Record
import GatewayRegistry.Proofs.Json.Text
import GatewayRegistry.Proofs.Liveness.History
import GatewayRegistry.Proofs.Liveness.Presence
import GatewayRegistry.Proofs.Runs.Commutation
import GatewayRegistry.Proofs.Runs.Copies
import GatewayRegistry.Proofs.Runs.Deadlines
import GatewayRegistry.Proofs.Runs.Deletion
import GatewayRegistry.Proofs.Runs.Failure
import GatewayRegistry.Proofs.Runs.Frame
import GatewayRegistry.Proofs.Runs.Heartbeats
import GatewayRegistry.Proofs.Runs.Isolation
import GatewayRegistry.Proofs.Runs.Lifecycle
import GatewayRegistry.Proofs.Runs.Lookups
import GatewayRegistry.Proofs.Runs.Mirror
import GatewayRegistry.Proofs.Runs.Offers
import GatewayRegistry.Proofs.Runs.Operation
import GatewayRegistry.Proofs.Runs.Payload
import GatewayRegistry.Proofs.Runs.Protocols
import GatewayRegistry.Proofs.Runs.Reachable
import GatewayRegistry.Proofs.Runs.Registration
import GatewayRegistry.Proofs.Runs.Sessions
import GatewayRegistry.Proofs.Runs.StaleCopies
import GatewayRegistry.Proofs.Runs.Upkeep
import GatewayRegistry.Proofs.Runs.Views
import GatewayRegistry.Proofs.Store.Catalog
import GatewayRegistry.Proofs.Store.Consistency
import GatewayRegistry.Proofs.Store.Edit
import GatewayRegistry.Proofs.Store.Effect
import GatewayRegistry.Proofs.Store.Failure
import GatewayRegistry.Proofs.Store.Frame
import GatewayRegistry.Proofs.Store.Links
import GatewayRegistry.Proofs.Store.Listing
import GatewayRegistry.Proofs.Store.Offers
import GatewayRegistry.Proofs.Store.Statement
import GatewayRegistry.Proofs.Store.Table
import GatewayRegistry.Proofs.Text.Whole
import GatewayRegistry.Protocol.Basic
import GatewayRegistry.Protocol.Name
import GatewayRegistry.Registry.Basic
import GatewayRegistry.Registry.Error
import GatewayRegistry.Registry.Lifecycle
import GatewayRegistry.Registry.Payload
import GatewayRegistry.Registry.Protocols
import GatewayRegistry.Registry.Status
import GatewayRegistry.StorageBackend
import GatewayRegistry.Store.Accounts
import GatewayRegistry.Store.Backends
import GatewayRegistry.Store.Basic
import GatewayRegistry.Store.Catalog
import GatewayRegistry.Store.Database
import GatewayRegistry.Store.Domains
import GatewayRegistry.Store.Error
import GatewayRegistry.Store.FileUri
import GatewayRegistry.Store.Files
import GatewayRegistry.Store.Locator
import GatewayRegistry.Store.Maintenance
import GatewayRegistry.Store.Platforms
import GatewayRegistry.Store.Sftp
import GatewayRegistry.Store.Snapshot
import GatewayRegistry.Store.Terminals
import GatewayRegistry.Terminal.Basic
import GatewayRegistry.Terminal.Status
import GatewayRegistry.Terminal.Type
import GatewayRegistry.Text.Emphasis
import GatewayRegistry.Text.Hidden
import GatewayRegistry.Text.Percent
import GatewayRegistry.Text.Query
import GatewayRegistry.Text.Quoted
import GatewayRegistry.Text.UnknownName
import GatewayRegistry.Text.Utf8
import GatewayRegistry.Text.Whole
