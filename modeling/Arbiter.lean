import Arbiter.Framework.System
import Arbiter.Framework.Prog
import Arbiter.Execution.Classify
import Arbiter.Execution.ArbId
import Arbiter.Execution.Caps
import Arbiter.Execution.Manual
import Arbiter.Execution.Fallbacks
import Arbiter.Execution.Recovery
import Arbiter.Execution.Surfacing
import Arbiter.Execution.Release
import Arbiter.Safety.Durable
import Arbiter.Execution.Pnl
import Arbiter.Execution.Verify
import Arbiter.Adapters.Retry
import Arbiter.Adapters.Results
import Arbiter.Execution.Gate
import Arbiter.Reconcile.Restart
import Arbiter.Reconcile.StuckTrades
import Arbiter.Execution.EdgeFloor
import Arbiter.Execution.Retries
import Arbiter.Stranded.Phantom
import Arbiter.Stranded.InFlight
import Arbiter.Audit.MathAuditor
import Arbiter.Execution.AutoExecutor
import Arbiter.Adapters.ForecastexSiblings
import Arbiter.Adapters.ForecastexLookup
import Arbiter.Mapping.Safety
import Arbiter.Mapping.Pairs
import Arbiter.Mapping.Mirror
import Arbiter.Mapping.Disable
import Arbiter.Mapping.Held
import Arbiter.Mapping.Cage
import Arbiter.Mapping.Owners
import Arbiter.Mapping.DailyCap
import Arbiter.Mapping.Validation
import Arbiter.Mapping.Quarantine
import Arbiter.Mapping.Bindings
import Arbiter.Execution.HalfRecorded
import Arbiter.Execution.Requote
import Arbiter.Reconcile.Unresolved
import Arbiter.Mapping.Structural
import Arbiter.Mapping.Resolution
import Arbiter.Audit.Deposits
import Arbiter.Stranded.Paired
import Arbiter.Execution.OnRecord
import Arbiter.Execution.History
import Arbiter.Safety.LiveGate
import Arbiter.Safety.OpenIncidents
import Arbiter.Reconcile.StaleIncidents
import Arbiter.Execution.DailyWindow
import Arbiter.Scanner.Collectors
import Arbiter.Scanner.ForecastexQuotes
import Arbiter.Adapters.Unwind
import Arbiter.Stranded.Mitigation
import Arbiter.Stranded.Review
import Arbiter.Stranded.TradeGates
import Arbiter.Stranded.LossCut
import Arbiter.Stranded.Mismatch
import Arbiter.Stranded.Alerts
import Arbiter.Mapping.Selection
import Arbiter.Mapping.ResolutionDates
import Arbiter.Mapping.Participants
import Arbiter.Adapters.ForecastexAcks
import Arbiter.Reconcile.DisarmAdvice
import Arbiter.Execution.UnwindAccounting
import Arbiter.Safety.DbFailure
import Arbiter.Execution.PrimaryEdge
import Arbiter.Execution.Economics
import Arbiter.Execution.Cooldown
import Arbiter.Scanner.Feed
import Arbiter.Scanner.AlertGate
import Arbiter.Mapping.ChildResolver
import Arbiter.Mapping.FxMatching
import Arbiter.Execution.Dedup
import Arbiter.Scanner.ApprovedProfit
import Arbiter.Adapters.WirePrice
import Arbiter.Framework.FirstBest
import Arbiter.Stranded.CompleteArb
import Arbiter.Scanner.Publishing
import Arbiter.Safety.Reasons
import Arbiter.Framework.OrderBook
import Arbiter.Adapters.OrderBooks
import Arbiter.Execution.AdaptiveSizing
import Arbiter.Stranded.Valuation
import Arbiter.Framework.Window
import Arbiter.Execution.FailureTracker
import Arbiter.Execution.SkippedLegs
import Arbiter.Execution.Recognition
import Arbiter.Framework.TokenBucket
import Arbiter.Adapters.RateLimiter
import Arbiter.Adapters.CircuitBreaker
import Arbiter.Framework.Latest
import Arbiter.Audit.Portfolio
import Arbiter.Scanner.PriceStore
import Arbiter.Execution.FailureWindow
import Arbiter.Execution.LossStreak
import Arbiter.Safety.Telegram
import Arbiter.Mapping.EmptyParents
import Arbiter.Scanner.KalshiFetch
import Arbiter.Adapters.PolymarketUsClient
import Arbiter.Audit.Restarts
import Arbiter.Scanner.Balances
import Arbiter.Adapters.KalshiPlace
