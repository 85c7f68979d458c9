import PveManager.Core.KeyedTable
import PveManager.Models.Records
import PveManager.Ipam.Release
import PveManager.Sync.Cluster
import PveManager.Sync.Collect
import PveManager.Sync.Upsert
import PveManager.Sync.Tick
import PveManager.Sync.Evidence
import PveManager.Sync.Identity
import PveManager.Sync.Separation
import PveManager.Disks.Detach
import PveManager.Servers.Delete
import PveManager.Core.Run
import PveManager.Core.Proc
import PveManager.Core.Interleave
import PveManager.Scripts.Engine
import PveManager.Scripts.Interference
import PveManager.Rbac.Engine
import PveManager.Api.Handler
import PveManager.Api.Guests
import PveManager.Core.Contract
import PveManager.Api.Access
import PveManager.Api.GuestIsolation
import PveManager.Api.Visibility
import PveManager.Api.Servers
import PveManager.Api.ServerVisibility
import PveManager.Api.ServerSessions
import PveManager.Api.ServerConcealment
import PveManager.Api.Cluster
import PveManager.Api.ClusterReadiness
import PveManager.Models.Account
import PveManager.Core.Cron
import PveManager.Backups.Jobs
import PveManager.Backups.Schedule
import PveManager.Core.Outcome
import PveManager.Users.Accounts
import PveManager.Users.AdminBoundary
import PveManager.Core.IpAddress
import PveManager.Ipam.Service
import PveManager.Ipam.MainAddress
import PveManager.Deploy.Workers
import PveManager.Deploy.Cleanup
import PveManager.Deploy.Addresses
import PveManager.Owners.Backfill
import PveManager.Owners.Instances
import PveManager.Owners.Survival
import PveManager.Api.GuestDeletion
import PveManager.Reinstall.Worker
import PveManager.Reinstall.Identity
import PveManager.Monitoring.Dashboard
import PveManager.Monitoring.Notifications
import PveManager.Monitoring.Worker
import PveManager.Monitoring.Once
import PveManager.Users.Escalation
import PveManager.Users.Sessions
import PveManager.Users.AdminProtection
import PveManager.Users.Revocation
import PveManager.Apps.Vmids
import PveManager.Apps.Exclusion
import PveManager.Apps.Restore
import PveManager.Apps.Snapshots
import PveManager.Ipam.Ownership
import PveManager.Ipam.Uniqueness
import PveManager.Core.Listed
import PveManager.Ipam.Readers
import PveManager.Owners.RemoteMigration
import PveManager.Core.Totals
import PveManager.Quotas.Runs
import PveManager.Tasks.Queue
import PveManager.Tasks.Cancellation
import PveManager.Core.Grep
import PveManager.GuestIp.Script
import PveManager.GuestIp.Run
import PveManager.GuestIp.Presence
import PveManager.GuestIp.Tracking
import PveManager.GuestIp.Stacks
import PveManager.GuestIp.ByHand
import PveManager.GuestIp.Interfaces
import PveManager.Users.LastAdmin
import PveManager.Core.Dict
import PveManager.Rbac.Defaults
import PveManager.Rbac.Migration
import PveManager.Rbac.Seeding
import PveManager.Rbac.Denials
import PveManager.Users.StartUp
import PveManager.Users.SettingView
import PveManager.Users.BackupCodes
import PveManager.Users.PasswordReset
import PveManager.Core.FirstKept
import PveManager.Topology.Build
import PveManager.Topology.Order
import PveManager.Topology.Endpoint
import PveManager.Topology.Isolation
import PveManager.Topology.Tenants
import PveManager.Topology.Caches
import PveManager.Core.IpText
import PveManager.Ipam.Pools
import PveManager.Core.FirstFrom
import PveManager.Core.IpHosts
import PveManager.Ipam.NextFree
import PveManager.Ipam.Offers
import PveManager.Core.Counted
import PveManager.Ipam.Stats
import PveManager.Ipam.DefaultNetwork
import PveManager.GuestIp.Apply
import PveManager.Core.Sparse
import PveManager.Security.Guessing
import PveManager.Security.Lockout
import PveManager.Security.SettingCache
import PveManager.Tasks.Accounting
import PveManager.Tasks.Interruption
import PveManager.Core.Yaml
import PveManager.Compose.Rewrite
import PveManager.Compose.Removal
import PveManager.Compose.Delivery
import PveManager.Compose.References
import PveManager.Compose.PortSyntax
import PveManager.Compose.PublishedPort
import PveManager.Core.Paths
import PveManager.Compose.BindMounts
import PveManager.Api.GlobalView
import PveManager.Users.ServerAssignments
import PveManager.Core.Apart
import PveManager.Monitoring.UpidSync
import PveManager.Monitoring.Finalizers
import PveManager.Monitoring.MetricsHistory
import PveManager.Monitoring.MetricsCollector
import PveManager.Apps.Catalog
import PveManager.Core.Shell
import PveManager.Scripts.Quoting
import PveManager.Apps.DataFiles
import PveManager.Core.Dotenv
import PveManager.Apps.EnvFile
import PveManager.Backups.Router
import PveManager.Backups.Tenants
import PveManager.Sync.Announced
import PveManager.Live.Scope
import PveManager.Core.Unwinding
import PveManager.Deploy.Clone
import PveManager.Ipam.GuestList
import PveManager.Api.DeleteFailure
import PveManager.Api.Plain
import PveManager.Disks.Resize
import PveManager.Monitoring.DeleteRecords
import PveManager.Backups.JobResult
import PveManager.Backups.Native
import PveManager.Core.Session
import PveManager.Snapshots.Archive
import PveManager.Snapshots.Operations
import PveManager.Tasks.Actions
import PveManager.Tasks.Reports
import PveManager.Core.TimedCache
import PveManager.Servers.Connections
import PveManager.Monitoring.LastListing
import PveManager.Monitoring.ServerStatus
import PveManager.Scripts.CatalogSync
import PveManager.Live.Suspension
import PveManager.Core.Boxes
import PveManager.Topology.Layout
import PveManager.Topology.Spacing
import PveManager.Topology.Graph
import PveManager.Apps.Reconciliation
import PveManager.Core.Distinct
import PveManager.Disks.BootOrder
import PveManager.Deploy.Bridge
import PveManager.Deploy.ContainerNet
import PveManager.Core.Binary64
import PveManager.Disks.Growth
import PveManager.Core.Grouped
import PveManager.Owners.BackfillPass
import PveManager.Topology.Page
import PveManager.Core.InFlight
import PveManager.Core.Holding
import PveManager.Live.Browser
import PveManager.Live.Sockets
import PveManager.Live.Agreement
import PveManager.Ipam.History
import PveManager.Security.Encryption
import PveManager.Scripts.Library
