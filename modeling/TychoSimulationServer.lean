import TychoSimulationServer.Fallible
import TychoSimulationServer.MapFold
import TychoSimulationServer.Machine
import TychoSimulationServer.Protocol
import TychoSimulationServer.Feed
import TychoSimulationServer.Contract
import TychoSimulationServer.Tracker
import TychoSimulationServer.StateStore
import TychoSimulationServer.StateStoreIndexes
import TychoSimulationServer.WriterFence
import TychoSimulationServer.SnapshotSplit
import TychoSimulationServer.SnapshotFragments
import TychoSimulationServer.SnapshotPacking
import TychoSimulationServer.SnapshotReassembly
import TychoSimulationServer.SnapshotRoundTrip
import TychoSimulationServer.SlotSplit
import TychoSimulationServer.RawPartition
import TychoSimulationServer.SnapshotCache
import TychoSimulationServer.SnapshotExport
import TychoSimulationServer.SplitRouter
import TychoSimulationServer.DepthOrder
import TychoSimulationServer.RouteEncode
import TychoSimulationServer.RouteFlow
import TychoSimulationServer.RouteExecution
import TychoSimulationServer.RoutePinning
import TychoSimulationServer.RedisEntry
import TychoSimulationServer.ReplayClient
import TychoSimulationServer.ReplayContinuity
import TychoSimulationServer.StateStoreContents
import TychoSimulationServer.DecodedReplica
import TychoSimulationServer.RawCompaction
import TychoSimulationServer.ComponentReplay
import TychoSimulationServer.AccountReplay
import TychoSimulationServer.RecoveryConsumer
import TychoSimulationServer.RecoveryCommit
import TychoSimulationServer.ChunkCaps
import TychoSimulationServer.JsonText
import TychoSimulationServer.RecoveryPublication
import TychoSimulationServer.SelfMeasure
import TychoSimulationServer.RecoveryChunks
import TychoSimulationServer.RecoveryChunkSize
import TychoSimulationServer.TokenStore
import TychoSimulationServer.TokenFetches
import TychoSimulationServer.RebuildGuards
import TychoSimulationServer.GuardDiscovery
import TychoSimulationServer.QuoteVerdict
import TychoSimulationServer.QuoteOrder
import TychoSimulationServer.QuoteCancellation
import TychoSimulationServer.QuoteRequest
import TychoSimulationServer.QuoteFence
import TychoSimulationServer.QuoteLiquidity
import TychoSimulationServer.RouteAmounts
import TychoSimulationServer.RouteOrder
import TychoSimulationServer.RoundDiv
import TychoSimulationServer.Slippage
import TychoSimulationServer.SlippageLadder
import TychoSimulationServer.SlippageMonotone
import TychoSimulationServer.QuoteRows
import TychoSimulationServer.QuotePartialKind
import TychoSimulationServer.StreamReader
import TychoSimulationServer.RedisPublisher
import TychoSimulationServer.PublisherRun
import TychoSimulationServer.PublisherStream
import TychoSimulationServer.PublisherTransactions
import TychoSimulationServer.PublisherOrder
import TychoSimulationServer.SentRecovery
import TychoSimulationServer.RecoveryTransaction
import TychoSimulationServer.ServiceRecovery
import TychoSimulationServer.ServiceControl
import TychoSimulationServer.ServiceHandover
import TychoSimulationServer.SnapshotSessions
import TychoSimulationServer.SnapshotCandidate
import TychoSimulationServer.SnapshotDownload
