import Wdt.Lib.Decoder
import Wdt.Lib.VarInt
import Wdt.Lib.Memory
import Wdt.Lib.Transition
import Wdt.Lib.Outcome
import Wdt.Reporting
import Wdt.SerializationUtil
import Wdt.Protocol
import Wdt.ThreadTransferHistory
import Wdt.CheckpointCredit
import Wdt.FileCreator
import Wdt.ReceiverWindow
import Wdt.ProcessFileCmd
import Wdt.ReceiverThread
import Wdt.ReceiverFrame
import Wdt.ReceiverSkeleton
import Wdt.SenderIdentity
import Wdt.GlobalCheckpoints
import Wdt.BlockWindow
import Wdt.PeerSafety
import Wdt.Frames
import Wdt.FileReception
import Wdt.StreamReception
import Wdt.Segmentation
import Wdt.Lib.Ranges
import Wdt.SenderThread
import Wdt.ThreadPair
import Wdt.PairRounds
import Wdt.PairConnections
import Wdt.LocalCheckpoints
import Wdt.CheckpointValidity
import Wdt.Lib.Ownership
import Wdt.SourceQueue
import Wdt.SettingsDelivery
import Wdt.FileChunks
import Wdt.ChunkExchange
import Wdt.EncryptionUtils
import Wdt.EncryptedFraming
import Wdt.SocketLink
import Wdt.SocketReader
import Wdt.SocketCalls
import Wdt.SocketSessions
import Wdt.KeyRequired
import Wdt.Lib.SortedMap
import Wdt.TransferLog
import Wdt.LogParser
import Wdt.LogReplay
import Wdt.TornTail
import Wdt.TransferLogManager
import Wdt.LogDurability
import Wdt.LogSessions
import Wdt.LogMirror
import Wdt.LogHistory
import Wdt.LogContents
import Wdt.LogRounds
import Wdt.ParseTwice
import Wdt.StaleEntries
import Wdt.MissingFiles
import Wdt.Compaction
import Wdt.LogLifecycle
import Wdt.LongRunning
import Wdt.VersionMismatch
import Wdt.FileDiscovery
import Wdt.ChunkArrival
import Wdt.FileAllocation
import Wdt.Lib.Encoder
import Wdt.WireMessages
import Wdt.DestinationFiles
import Wdt.DestinationPaths
import Wdt.ControllerCalls
import Wdt.TransferCalls
import Wdt.SenderReport
import Wdt.HistoryDrain
import Wdt.ChunkAlgebra
import Wdt.VarIntLoops
import Wdt.ChunkLists
import Wdt.LogSurvival
import Wdt.StatsMerge
import Wdt.PerfReport
import Wdt.Hub
import Wdt.WebShare
import Wdt.DirectoryOrder
