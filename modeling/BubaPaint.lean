import BubaPaint.Agent.SingleBot
import BubaPaint.Dashboard.ConfinedPlans
import BubaPaint.Dashboard.OperatorDecisions
import BubaPaint.Dashboard.ResumedTransfers
import BubaPaint.Dashboard.RetriedSteps
import BubaPaint.Decision.DrawdownPause
import BubaPaint.Decision.Exposure
import BubaPaint.Decision.PositionCap
import BubaPaint.Decision.RunIds
import BubaPaint.Decision.TradingRecord
import BubaPaint.Feeds.BookBounds
import BubaPaint.Feeds.WholeHistory
import BubaPaint.Live.BatchOutcomes
import BubaPaint.Live.BookEvidence
import BubaPaint.Live.Degradation
import BubaPaint.Live.Evidence
import BubaPaint.Live.FeedHealth
import BubaPaint.Live.FillRecords
import BubaPaint.Live.LostUpdates
import BubaPaint.Live.OnchainSoundness
import BubaPaint.Live.Rollback
import BubaPaint.Live.SessionStart
import BubaPaint.Live.Settlement
import BubaPaint.Live.TerminalStates
import BubaPaint.Live.UnresolvedOrders
import BubaPaint.Market.Resolution
import BubaPaint.Replay.CapturedState
import BubaPaint.Replay.DueOrderFailures
import BubaPaint.Replay.EnginesAgree
import BubaPaint.Replay.PositionOpening
import BubaPaint.Replay.PreparedInput
import BubaPaint.Replay.QualityGate
import BubaPaint.Replay.RouterGates
import BubaPaint.Replay.SettledTrades
import BubaPaint.Replay.SettlementCorrection
import BubaPaint.Replay.SpreadPrecheck
import BubaPaint.Replay.SweepRuns
import BubaPaint.Replay.TickRuns
import BubaPaint.Replay.WindowLifecycle
import BubaPaint.Sidecar.FullFills
import BubaPaint.Sidecar.Idempotence
import BubaPaint.Sidecar.StreamHealth
import BubaPaint.Storage.BlockCursors
import BubaPaint.Storage.DataQuality
import BubaPaint.Storage.HistoryUpgrade
import BubaPaint.Strategies.LatencyArbRuns
