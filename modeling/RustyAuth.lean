import RustyAuth.Library.Keyspace
import RustyAuth.Library.Runs
import RustyAuth.Library.Digits
import RustyAuth.Library.Outcome
import RustyAuth.Library.Integrity
import RustyAuth.Library.Protobuf
import RustyAuth.Library.Counters
import RustyAuth.Library.Texts
import RustyAuth.Library.Tasks
import RustyAuth.Store.Records
import RustyAuth.Analytics.Messages
import RustyAuth.Store.Keys
import RustyAuth.Store.Events
import RustyAuth.Store.Fleet
import RustyAuth.Store.FleetConnections
import RustyAuth.Store.FleetRoles
import RustyAuth.Rpc.Errors
import RustyAuth.Rpc.OperatorAuth
import RustyAuth.Store.FleetSystem
import RustyAuth.Rpc.RoleBindings
import RustyAuth.Rpc.CompleteConnection
import RustyAuth.Backup.GrantLocators
import RustyAuth.Analytics.Bucket
import RustyAuth.Analytics.Contract
import RustyAuth.Analytics.Projector
import RustyAuth.Analytics.Projection
import RustyAuth.Store.Management
import RustyAuth.Store.Webhooks
import RustyAuth.Store.Snapshot
import RustyAuth.Store.Writers
import RustyAuth.Store.WriterLease
import RustyAuth.Backup.Families
import RustyAuth.Backup.KeyTables
import RustyAuth.Backup.Coverage
import RustyAuth.Store.EventLog
import RustyAuth.Store.LogIntegrity
import RustyAuth.Store.Operators
import RustyAuth.Webhook.Dispatch
import RustyAuth.Webhook.Administration
import RustyAuth.Library.Ownership
import RustyAuth.Library.Numerals
import RustyAuth.Library.Blanks
import RustyAuth.Library.Addresses
import RustyAuth.Library.Paging
import RustyAuth.Network.ClientAddress
import RustyAuth.Network.RateLimit
import RustyAuth.Network.SharedRateLimit
import RustyAuth.Account.Search
import RustyAuth.Account.Listing
import RustyAuth.Network.ManagementHost
import RustyAuth.Account.Identifiers
import RustyAuth.Account.CanonicalForms
import RustyAuth.Account.Users
import RustyAuth.Account.Operations
import RustyAuth.Account.Lookups
import RustyAuth.Account.Changes
import RustyAuth.Session.Policy
import RustyAuth.Session.System
import RustyAuth.Session.Acceptance
import RustyAuth.Session.Touches
import RustyAuth.Session.Aging
import RustyAuth.Session.SignCounters
import RustyAuth.Session.Finality
import RustyAuth.Session.Slack
import RustyAuth.Library.Versions
import RustyAuth.Analytics.Acknowledgement
import RustyAuth.Telemetry.Ledger
import RustyAuth.Telemetry.Register
import RustyAuth.Store.ConnectionRecords
import RustyAuth.Store.FleetAudit
import RustyAuth.Telemetry.Frames
import RustyAuth.Telemetry.Connector
import RustyAuth.Telemetry.ReportingCoverage
import RustyAuth.Telemetry.Granularity
import RustyAuth.Telemetry.Quota
import RustyAuth.Store.EventReads
import RustyAuth.Rpc.EventStream
import RustyAuth.Rpc.SessionHandlers
import RustyAuth.Rpc.Administration
import RustyAuth.Jwt.KeySet
import RustyAuth.Jwt.Issuer
import RustyAuth.Jwt.Verifiable
import RustyAuth.Jwt.Prepublish
import RustyAuth.Backup.Export
import RustyAuth.Backup.ConsistentCut
import RustyAuth.Rpc.RemoteMutations
import RustyAuth.Rpc.AtMostOnce
import RustyAuth.Backup.StoragePosture
import RustyAuth.Webhook.Reconciliation
import RustyAuth.Webhook.Restarts
import RustyAuth.Library.Groups
import RustyAuth.Analytics.Rollup
import RustyAuth.Telemetry.Rollups
import RustyAuth.Telemetry.FrameSignatures
import RustyAuth.Library.Histograms
import RustyAuth.Library.Mac
import RustyAuth.Library.Bytes
import RustyAuth.Metrics.Service
import RustyAuth.Metrics.Percentiles
import RustyAuth.Metrics.Series
