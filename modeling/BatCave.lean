import BatCave.Lib.Bytes
import BatCave.Lib.Text
import BatCave.Lib.Word
import BatCave.Lib.Table
import BatCave.Lib.Result
import BatCave.Lib.Chain
import BatCave.Lib.Binary64
import BatCave.Lib.Interner
import BatCave.Lib.History
import BatCave.Contracts.Metrics
import BatCave.Contracts.Persistence
import BatCave.CollectorService.Protocol
import BatCave.CollectorService.Framing
import BatCave.CollectorService.Client
import BatCave.CollectorService.Session
import BatCave.CollectorService.EtwLease
import BatCave.CollectorService.EtwLeaseRuns
import BatCave.WorkloadHistory.Points
import BatCave.WorkloadHistory.Archive
import BatCave.WorkloadHistory.Operations
import BatCave.WorkloadHistory.Steps
import BatCave.WorkloadHistory.Accounting
import BatCave.WorkloadHistory.Budget
import BatCave.WorkloadHistory.Retention
import BatCave.WorkloadHistory.Room
import BatCave.WorkloadHistory.Published
import BatCave.WorkloadHistory.PublishedRuns
import BatCave.Network.Attribution
import BatCave.Network.LinuxProtocol
import BatCave.Network.LinuxGrammar
import BatCave.Network.LinuxMonitor
import BatCave.Network.LinuxIntervals
import BatCave.Network.MacosEngine
import BatCave.Network.MacosOrdering
import BatCave.Network.MacosBilling
import BatCave.WorkloadIdentity.Membership
import BatCave.RuntimeStore.RefreshGate
import BatCave.RuntimeStore.RefreshWakeups
import BatCave.RuntimeStore.RefreshDelivery
import BatCave.CollectorEngine.RefreshGate
import BatCave.CollectorEngine.RefreshMoves
import BatCave.CollectorEngine.RefreshRuns
import BatCave.Protocol.Persistence
import BatCave.Persistence.Coordinator
import BatCave.Persistence.Writer
import BatCave.Persistence.Health
import BatCave.Persistence.Acceptance
import BatCave.RuntimeStore.Warnings
import BatCave.RuntimeStore.WarningKeys
import BatCave.RuntimeStore.WarningRuns
import BatCave.Protocol.Catalog
import BatCave.Protocol.Encoder
import BatCave.Protocol.Observations
import BatCave.Protocol.System
import BatCave.Protocol.Readings
import BatCave.LinuxSystem.Collector
import BatCave.LinuxSystem.Publishable
import BatCave.Contracts.Snapshot
import BatCave.ProcessView.Ranking
import BatCave.ProcessView.Groups
import BatCave.ProcessView.Rows
import BatCave.ProcessView.Overview
import BatCave.ProcessView.Members
import BatCave.RuntimeStore.Rates
import BatCave.RuntimeStore.Health
import BatCave.RuntimeStore.Store
import BatCave.RuntimeStore.Views
import BatCave.RuntimeStore.Fatal
import BatCave.Protocol.Workloads
import BatCave.RuntimeStore.NetworkRates
import BatCave.RuntimeStore.Engine
import BatCave.RuntimeStore.Controls
import BatCave.RuntimeStore.Publications
import BatCave.Lib.Ledger
import BatCave.Persistence.WriterRuns
import BatCave.Persistence.Durability
import BatCave.WindowsSystem.Network
import BatCave.Lib.Distinct
import BatCave.Lib.Js
import BatCave.ProcessView.Averages
import BatCave.Protocol.Envelope
import BatCave.Protocol.Readable
import BatCave.Reader.Catalog
import BatCave.Reader.CatalogAccepts
import BatCave.Reader.Snapshot
import BatCave.WorkloadHistory.Credits
import BatCave.WorkloadHistory.Failures
import BatCave.WorkloadHistory.Histories
import BatCave.RuntimeStore.WarningSync
import BatCave.WorkloadHistory.Complete
import BatCave.ProcessView.Partition
import BatCave.RuntimeStore.Settings
import BatCave.RuntimeStore.IoRates
import BatCave.CollectorService.EtwCrashes
import BatCave.Reader.SnapshotAccepts
import BatCave.Network.LinuxRestarts
import BatCave.CollectorService.Approval
import BatCave.Lib.Worklist
import BatCave.LinuxSystem.Conservation
import BatCave.CollectorEngine.Schedule
import BatCave.Lib.Serde
import BatCave.WorkloadHistory.SizeBound
import BatCave.Protocol.CatalogRuns
import BatCave.Protocol.Publication
import BatCave.RuntimeStore.ReadHealth
import BatCave.ProcessView.Displays
import BatCave.ProcessView.Keyed
import BatCave.ProcessView.ShownTotals
import BatCave.Protocol.ViewMetrics
import BatCave.Protocol.ViewReadable
import BatCave.Reader.EnvelopeAccepts
import BatCave.CollectorService.Authorization
import BatCave.CollectorService.UpgradeNames
import BatCave.Desktop.Ranking
import BatCave.Lib.Files
import BatCave.Lib.Integer
import BatCave.Lib.Merge
import BatCave.LinuxProcess.Collector
import BatCave.LinuxProcess.Names
import BatCave.MacosSystem.Network
import BatCave.Network.EtwQuality
import BatCave.Persistence.AtomicWrite
import BatCave.Persistence.RootEpisodes
import BatCave.WindowsSystem.PoolTags
import BatCave.WindowsSystem.PublishedTags
import BatCave.CollectorService.Desktop
import BatCave.CollectorService.Exchange
import BatCave.CollectorService.LinkRuns
import BatCave.CollectorService.LinkSafety
import BatCave.CollectorService.UpgradeSafety
import BatCave.Narratives.Coordinator
import BatCave.Narratives.Runs
import BatCave.Narratives.Safety
