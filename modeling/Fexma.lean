import Fexma.Library.StableOrder
import Fexma.Library.ProbeTable
import Fexma.Library.WordBitmap
import Fexma.Library.Transducer
import Fexma.OrderBook.OrderPool
import Fexma.OrderBook.OrderIdIndex
import Fexma.OrderBook.SideBookProofs
import Fexma.OrderBook.OrderBook
import Fexma.OrderBook.PriceTimeBook
import Fexma.OrderBook.Refinement
import Fexma.OrderBook.Snapshot
import Fexma.OrderBook.ReferenceOrderBook
import Fexma.OrderBook.Calls
import Fexma.Matcher.Matcher
import Fexma.Matcher.Plan
import Fexma.Matcher.ProcessSpec
import Fexma.Matcher.Matching
import Fexma.Matcher.Reachable
import Fexma.Matcher.Execution
import Fexma.Matcher.EventFold
import Fexma.Matcher.Ledger
import Fexma.Matcher.Replay
import Fexma.Matcher.Framing
import Fexma.Library.SlotRing
import Fexma.Matcher.CommandPipeline
import Fexma.Matcher.PipelineSafety
import Fexma.Matcher.ReplayPersistence
import Fexma.Matcher.ReplayAgreement
import Fexma.Library.ByteLayout
import Fexma.Wal.Config
import Fexma.OrderBook.Structure
import Fexma.OrderBook.ValidationProofs
import Fexma.OrderBook.Operations
import Fexma.Matcher.Checkpoint
import Fexma.Library.Checksum
import Fexma.Wal.Format
import Fexma.Library.TornLog
import Fexma.Wal.Image
import Fexma.Wal.FileWrites
import Fexma.Wal.Reader
import Fexma.Wal.ReaderProofs
import Fexma.Wal.Scan
import Fexma.Wal.Recovery
import Fexma.Wal.RoundTrip
import Fexma.Wal.Damage
import Fexma.Wal.RecoveryProofs
import Fexma.Wal.Core
import Fexma.Matcher.Codec
import Fexma.Matcher.FatalStop
import Fexma.Matcher.PayloadFormat
import Fexma.OrderBook.RestoreFailure
import Fexma.Wal.Slider
import Fexma.Matcher.ReplaySource
import Fexma.Matcher.ReplayInStep
import Fexma.Matcher.EventComparator
import Fexma.Matcher.LiveSequences
import Fexma.SnapshotDemo.Record
import Fexma.SnapshotDemo.CaptureGeneration
import Fexma.SnapshotDemo.RecordString
import Fexma.SnapshotDemo.Stage
import Fexma.SnapshotDemo.Schedule
import Fexma.SnapshotDemo.SnapshotFormat
import Fexma.SnapshotDemo.SnapshotDescription
import Fexma.SnapshotDemo.SnapshotLoader
import Fexma.Library.CrashProgram
import Fexma.SnapshotDemo.Storage
import Fexma.SnapshotDemo.SnapshotSink
import Fexma.SnapshotDemo.Bootstrap
import Fexma.Wal.Persistence
import Fexma.Wal.Tract
import Fexma.Wal.Facade
import Fexma.Wal.WalSafety
import Fexma.Wal.CrashSafety
import Fexma.Matcher.AcceptedRun
import Fexma.OrderBook.PoolRuns
import Fexma.Library.GuardedArithmetic
import Fexma.OrderBook.IndexHistory
import Fexma.Wal.LayoutArithmetic
import Fexma.Library.DeliveryTrail
import Fexma.Wal.CoreRuns
import Fexma.Wal.SliderRuns
import Fexma.SnapshotDemo.SaveRetry
import Fexma.OrderBook.ValidationSound
import Fexma.Matcher.EventRecording
import Fexma.Library.FairRun
import Fexma.Matcher.ReplayPath
import Fexma.Matcher.ReplayProgress
import Fexma.Matcher.LiveReplay
import Fexma.SnapshotDemo.RecordPrefix
import Fexma.Wal.SliderFrame
import Fexma.SnapshotDemo.DemoTract
import Fexma.SnapshotDemo.DemoSafety
import Fexma.SnapshotDemo.DemoRestart
import Fexma.SnapshotDemo.DemoProgress
import Fexma.Library.Loop
import Fexma.Matcher.Run
import Fexma.Library.Interleaving
import Fexma.Matcher.PipelineAccesses
import Fexma.Matcher.PipelineInterleaving
import Fexma.Matcher.PipelineThreads
import Fexma.Matcher.PipelineSchedules
