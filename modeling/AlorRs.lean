import AlorRs.Gateway.Equiv.Auth
import AlorRs.Gateway.Equiv.CommandConsumer
import AlorRs.Gateway.Equiv.ControlPath
import AlorRs.Gateway.Equiv.CwsPending
import AlorRs.Gateway.Equiv.DataQuality
import AlorRs.Gateway.Equiv.ExecutionPaths
import AlorRs.Gateway.Equiv.FinalBars
import AlorRs.Gateway.Equiv.Handshake
import AlorRs.Gateway.Equiv.Health
import AlorRs.Gateway.Equiv.SentOrders
import AlorRs.Gateway.Equiv.TransportRedis
import AlorRs.StrategyRuntime.Equiv.AlorUsdrubfHybrid.Commands
import AlorRs.StrategyRuntime.Equiv.AlorUsdrubfHybrid.Entries
import AlorRs.StrategyRuntime.Equiv.HybridIntradayRuntime.Breakouts
import AlorRs.StrategyRuntime.Equiv.HybridIntradayRuntime.Comments
import AlorRs.StrategyRuntime.Equiv.HybridIntradayRuntime.Entries
import AlorRs.StrategyRuntime.Equiv.LimitCancel
import AlorRs.StrategyRuntime.Equiv.MarketBuyAndClose
import AlorRs.StrategyRuntime.Equiv.RiAuthor4142Live.CutWindow
import AlorRs.StrategyRuntime.Equiv.RiAuthor4142Live.Exits
import AlorRs.StrategyRuntime.Equiv.RiContext.Checkpoint
import AlorRs.StrategyRuntime.Equiv.RiContext.Schedules
import AlorRs.StrategyRuntime.Equiv.RiContext.SourceRuns
import AlorRs.StrategyRuntime.Equiv.RiContext.TransactionLog
import AlorRs.StrategyRuntime.Equiv.RiskGateStartup
import AlorRs.StrategyRuntime.Equiv.RiskGateWriters
import AlorRs.StrategyRuntime.Equiv.Runtime.BarDelivery
import AlorRs.StrategyRuntime.Equiv.Runtime.EmissionGate
import AlorRs.StrategyRuntime.Equiv.Runtime.EventDelivery
import AlorRs.StrategyRuntime.Equiv.Runtime.IntentAnswers
import AlorRs.StrategyRuntime.Equiv.Runtime.Paper
import AlorRs.StrategyRuntime.Equiv.Runtime.Trades
import AlorRs.StrategyRuntime.Equiv.SessionGapStandalone.Freshness
import AlorRs.StrategyRuntime.Equiv.SessionGapStandalone.RequestIds
import AlorRs.StrategyRuntime.Equiv.SessionGapStandalone.Restarts
import AlorRs.StrategyRuntime.Equiv.SessionGapStandalone.Timeouts
import AlorRs.StrategyRuntime.Equiv.ShadowReaction.Flat
import AlorRs.StrategyRuntime.Equiv.ShadowReaction.Replay
import AlorRs.StrategyRuntime.Equiv.ShadowSessionContext.Arms
import AlorRs.StrategyRuntime.Equiv.State
