import PgLlmBatch.Base.Program
import PgLlmBatch.Base.Runs
import PgLlmBatch.Base.Pool
import PgLlmBatch.Base.RowLocking
import PgLlmBatch.Base.RowLogic
import PgLlmBatch.Base.RowHistory
import PgLlmBatch.Base.RowRuns
import PgLlmBatch.Base.PyText
import PgLlmBatch.Base.PyFloat
import PgLlmBatch.Base.Json
import PgLlmBatch.Exceptions
import PgLlmBatch.Identifiers
import PgLlmBatch.ResultCheckpoint
import PgLlmBatch.CheckpointStore
import PgLlmBatch.CheckpointChain
import PgLlmBatch.ResultApplication
import PgLlmBatch.ResultExactlyOnce
import PgLlmBatch.Base.JsonText
import PgLlmBatch.Base.JsonRoundTrip
import PgLlmBatch.RemoteBatchSnapshot
import PgLlmBatch.Base.Table
import PgLlmBatch.RemoteBatchStore
import PgLlmBatch.Base.Fallible
import PgLlmBatch.RemoteBatchLifecycle
import PgLlmBatch.ReconciliationStore
import PgLlmBatch.Base.Noninterference
import PgLlmBatch.Base.RowSolo
import PgLlmBatch.TenantIsolation
import PgLlmBatch.Base.GreedyGroups
import PgLlmBatch.TokenCounter
import PgLlmBatch.BatchAssembly
import PgLlmBatch.BatchLines
import PgLlmBatch.BatchPacking
import PgLlmBatch.PayloadContent
import PgLlmBatch.Base.RelyGuarantee
import PgLlmBatch.PreparationStore
import PgLlmBatch.BatchPreparation
import PgLlmBatch.PreparationInvariant
import PgLlmBatch.PreparationCommit
import PgLlmBatch.PreparationFirstWrite
import PgLlmBatch.PreparationChanges
import PgLlmBatch.FirstWriteWins
import PgLlmBatch.PayloadRoundTrip
import PgLlmBatch.Base.FloatValue
import PgLlmBatch.RemoteBatchReport
import PgLlmBatch.Base.JsonCanonical
import PgLlmBatch.DurableClient
import PgLlmBatch.DurableClientAgrees
import PgLlmBatch.RemoteBatchSchema
import PgLlmBatch.BatchCreation
import PgLlmBatch.BatchCreationRecords
import PgLlmBatch.RemoteBatchMigration
import PgLlmBatch.GatewayRequest
import PgLlmBatch.SingleFlightSessions
import PgLlmBatch.ConfigCoherence
import PgLlmBatch.Base.FloatArithmetic
import PgLlmBatch.Base.Loop
import PgLlmBatch.Base.AdvisoryLocks
import PgLlmBatch.Base.Sha256
import PgLlmBatch.SingleFlight
import PgLlmBatch.Base.PyNumber
import PgLlmBatch.ConfigStore
import PgLlmBatch.BatchSplitting
import PgLlmBatch.SingleFlightBalance
import PgLlmBatch.Base.FloatOrder
import PgLlmBatch.RetryDelay
import PgLlmBatch.RemoteBatchGuard
import PgLlmBatch.Base.FirstDistinct
import PgLlmBatch.Reconciliation
import PgLlmBatch.CheckpointRow
import PgLlmBatch.Base.JsonReading
import PgLlmBatch.Base.JsonRecord
import PgLlmBatch.EvidenceJson
import PgLlmBatch.RecoveryReceipt
import PgLlmBatch.PhysicalRecovery
import PgLlmBatch.Base.Watched
import PgLlmBatch.Inspection
import PgLlmBatch.BoundedInspection
import PgLlmBatch.RecoveryVerification
import PgLlmBatch.ResultApplicationTrace
import PgLlmBatch.Base.Nested
import PgLlmBatch.Observability
import PgLlmBatch.ObservabilityTransparent
import PgLlmBatch.Base.Generator
import PgLlmBatch.ResultStreaming
import PgLlmBatch.ResultStreamingChunks
import PgLlmBatch.Base.Delimited
import PgLlmBatch.CheckpointFraming
import PgLlmBatch.CliInput
import PgLlmBatch.ReleaseEvidence
import PgLlmBatch.Base.Ledger
import PgLlmBatch.DescriptorDiscipline
import PgLlmBatch.Base.FileTree
import PgLlmBatch.ReleaseFiles
import PgLlmBatch.ManifestAtomicity
import PgLlmBatch.LogicalBackup
import PgLlmBatch.LogicalBackupAtomicity
import PgLlmBatch.Base.Budgeted
import PgLlmBatch.BoundedReading
import PgLlmBatch.Base.WeakReferences
import PgLlmBatch.InspectionProvenance
import PgLlmBatch.Base.IpAddress
import PgLlmBatch.Base.UrlSplit
import PgLlmBatch.GatewayUrl
import PgLlmBatch.Base.Traced
import PgLlmBatch.ResultResume
import PgLlmBatch.ResultPositions
import PgLlmBatch.ResultConsumer
import PgLlmBatch.ResultConsumerOnce
import PgLlmBatch.Base.JsonPadding
import PgLlmBatch.Base.TextLines
import PgLlmBatch.ResultDownload
import PgLlmBatch.Base.Discipline
import PgLlmBatch.PreparationFiles
import PgLlmBatch.PayloadUpload
import PgLlmBatch.RestoreAcceptance
import PgLlmBatch.RestoreCatalog
