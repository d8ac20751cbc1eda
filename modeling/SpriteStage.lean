import SpriteStage.Text.CharTable
import SpriteStage.Text.DecimalDigit
import SpriteStage.Text.Unprintable
import SpriteStage.Text.GraphemeExtend
import SpriteStage.Text.Blank
import SpriteStage.Text.Cut
import SpriteStage.Text.Integer
import SpriteStage.Motion.Parser
import SpriteStage.Board.Pass
import SpriteStage.Playback.Performance
import SpriteStage.Tab.Index
import SpriteStage.Text.Quoted
import SpriteStage.Decimal.Reader
import SpriteStage.Stage.Call
import SpriteStage.Stage.Run
import SpriteStage.Stage.Snapshot
import SpriteStage.Settings.File
import SpriteStage.CommandLine.Options
import SpriteStage.CommandLine.Folder
import SpriteStage.Main
import SpriteStage.Proofs.Stage.Reachable
import SpriteStage.Proofs.Stage.Tabs
import SpriteStage.Proofs.Board.Exchange
import SpriteStage.Proofs.Board.Pairs
import SpriteStage.Proofs.Board.Pass
import SpriteStage.Proofs.Stage.CollisionPass
import SpriteStage.Proofs.Stage.Wakefulness
import SpriteStage.Proofs.Playback.Count
import SpriteStage.Proofs.Playback.Bookkeeping
import SpriteStage.Proofs.Playback.Interleaving
import SpriteStage.Proofs.Playback.Slices
import SpriteStage.Proofs.Playback.Progress
import SpriteStage.Proofs.Stage.Schedules
import SpriteStage.Proofs.Stage.Isolation
import SpriteStage.Proofs.Board.Reports
import SpriteStage.Proofs.Board.Cluster
import SpriteStage.Proofs.Stage.Clusters
import SpriteStage.Proofs.Clock
import SpriteStage.Proofs.Playback.Pacing
import SpriteStage.Proofs.Stage.Timetable
import SpriteStage.Proofs.Stage.FirstVisits
import SpriteStage.Proofs.Playback.Order
import SpriteStage.Proofs.Stage.Timing
import SpriteStage.Proofs.Stage.VisitingOrder
import SpriteStage.Proofs.Stage.TrackedPositions
import SpriteStage.Proofs.Stage.ManualTracking
import SpriteStage.Proofs.Motion.Grammar
import SpriteStage.Proofs.Motion.WrittenForm
import SpriteStage.Proofs.Queues.Ledger
import SpriteStage.Proofs.Stage.QueueHistory
import SpriteStage.Proofs.Stage.SpriteTracking
import SpriteStage.Proofs.Stage.Registration
import SpriteStage.Proofs.Stage.Refusals
import SpriteStage.Proofs.Decimal.Narrowing
import SpriteStage.Proofs.Settings.Loading
import SpriteStage.Proofs.CommandLine.Finale
import SpriteStage.Proofs.CommandLine.Setup
import SpriteStage.Proofs.Board.Boxes
import SpriteStage.Proofs.Stage.NewTabs
import SpriteStage.Proofs.Text
import SpriteStage.Proofs.Settings.LastValues
import SpriteStage.Proofs.Decimal.Nearest
import SpriteStage.Proofs.Decimal.Reading
import SpriteStage.Proofs.Decimal.Shortest
import SpriteStage.Proofs.Decimal.Gaps
import SpriteStage.Proofs.Decimal.RoundTrip
import SpriteStage.Proofs.Settings.Writing
import SpriteStage.Proofs.Settings.Saving
import SpriteStage.Proofs.Words
import SpriteStage.Proofs.Board.SignedBoxes
import SpriteStage.Proofs.Motion.Scripts
import SpriteStage.Proofs.Decimal.Sums
import SpriteStage.Proofs.Settings.TickLengths
import SpriteStage.Proofs.Playback.Waits
import SpriteStage.Proofs.Stage.TickRates
import SpriteStage.Proofs.CommandLine.Arguments
import SpriteStage.Proofs.CommandLine.RejectedValues
import SpriteStage.Proofs.Playback.Tracker
import SpriteStage.Proofs.Stage.Runs
import SpriteStage.Proofs.Stage.Snapshots
import SpriteStage.Proofs.CommandLine.Addressing
