import ZfsLocalPv.Interaction.Prog
import ZfsLocalPv.Interaction.Triple
import ZfsLocalPv.Interaction.System
import ZfsLocalPv.Interaction.Contract
import ZfsLocalPv.ApiServer.Resource
import ZfsLocalPv.ApiServer.Lineage
import ZfsLocalPv.Go.Strings
import ZfsLocalPv.Api.Types
import ZfsLocalPv.Api.Errors
import ZfsLocalPv.Api.Builders
import ZfsLocalPv.Zfs.Storage
import ZfsLocalPv.Cluster.Signature
import ZfsLocalPv.Zfs.Volume
import ZfsLocalPv.Zfs.Util
import ZfsLocalPv.Zfs.Mount
import ZfsLocalPv.Driver.Scheduling
import ZfsLocalPv.Selection.Scan
import ZfsLocalPv.Driver.Selection
import ZfsLocalPv.Locking.KeyedMutex
import ZfsLocalPv.Driver.LockMachine
import ZfsLocalPv.Driver.Csi
import ZfsLocalPv.Driver.Agent
import ZfsLocalPv.Driver.Capacity
import ZfsLocalPv.Driver.CreateVolume
import ZfsLocalPv.Driver.Volumes
import ZfsLocalPv.Driver.Snapshots
import ZfsLocalPv.Driver.BackupGc
import ZfsLocalPv.Mgmt.Agents
import ZfsLocalPv.Cluster.System
import ZfsLocalPv.Cluster.Steps
import ZfsLocalPv.Cluster.Discipline
import ZfsLocalPv.Cluster.Programs
import ZfsLocalPv.Cluster.Requests
import ZfsLocalPv.Cluster.Creation
import ZfsLocalPv.ApiServer.Change
import ZfsLocalPv.Cluster.Changes
import ZfsLocalPv.Properties.Readiness
import ZfsLocalPv.Properties.ApiFailures
import ZfsLocalPv.Properties.SnapshotData
import ZfsLocalPv.Properties.BackupGc
import ZfsLocalPv.Properties.BackupChains
import ZfsLocalPv.Properties.Placement
import ZfsLocalPv.Cluster.Locks
import ZfsLocalPv.Cluster.Serialized
import ZfsLocalPv.Properties.LiveSnapshots
import ZfsLocalPv.Properties.DeferredDeletion
import ZfsLocalPv.Properties.Scheduling
import ZfsLocalPv.Properties.VolumeLock
import ZfsLocalPv.Properties.Deadlock
import ZfsLocalPv.Properties.Mounts
import ZfsLocalPv.Properties.Cleanup
import ZfsLocalPv.Properties.Reclaim
import ZfsLocalPv.Properties.SnapshotSource
import ZfsLocalPv.Properties.PropertyEdits
import ZfsLocalPv.Arithmetic.RoundUp
import ZfsLocalPv.Properties.Rounding
import ZfsLocalPv.Zfs.Restore
import ZfsLocalPv.Properties.VolumeArgs
import ZfsLocalPv.Properties.BackupKeys
import ZfsLocalPv.Cluster.Commands
import ZfsLocalPv.Cluster.CreateCalls
import ZfsLocalPv.Cluster.Reports
import ZfsLocalPv.Properties.Resize
import ZfsLocalPv.Properties.Destroy
import ZfsLocalPv.Properties.Panics
import ZfsLocalPv.Properties.Undo
import ZfsLocalPv.Properties.Finalizers
import ZfsLocalPv.Properties.Refusals
import ZfsLocalPv.Properties.StorageClass
import ZfsLocalPv.Properties.Expansion
import ZfsLocalPv.Go.Bytes
import ZfsLocalPv.Zfs.Pools
import ZfsLocalPv.Properties.FormatOptions
import ZfsLocalPv.Properties.PoolListing
import ZfsLocalPv.Mgmt.Nodes
import ZfsLocalPv.Properties.NodeReports
import ZfsLocalPv.Properties.Orphans
import ZfsLocalPv.Properties.EditRuns
import ZfsLocalPv.ApiServer.Attention
import ZfsLocalPv.Properties.Attention
import ZfsLocalPv.Mgmt.Restores
import ZfsLocalPv.Properties.Restores
import ZfsLocalPv.ApiServer.Tickets
import ZfsLocalPv.Properties.RestoreOnce
import ZfsLocalPv.Interaction.Progress
import ZfsLocalPv.Properties.RunPipe
import ZfsLocalPv.Properties.PipeProgress
