import SentinelApex.Execution.ConcurrentFills
import SentinelApex.StrategyEngine.ExposureTotals
import SentinelApex.StrategyEngine.NavNeutrality
import SentinelApex.StrategyEngine.LegVerdicts
import SentinelApex.StrategyEngine.IntentIds
import SentinelApex.RiskEngine.HalfOpenProbe
import SentinelApex.RiskEngine.DailyNotional
import SentinelApex.Runtime.MismatchRuns
import SentinelApex.Runtime.CriticalGate
import SentinelApex.Runtime.VaultDilution
import SentinelApex.Runtime.VaultOverdraw
import SentinelApex.Runtime.EscalationRuns
import SentinelApex.Runtime.ApyFigures
import SentinelApex.Runtime.ReplayRuns
import SentinelApex.Runtime.AllocatorProposals
import SentinelApex.Shared.SignatureBinding
import SentinelApex.Dashboard.SessionRuns
import SentinelApex.Runtime.OkxImport
import SentinelApex.Runtime.DeltaAttribution
import SentinelApex.Runtime.PromotionRaces
import SentinelApex.Runtime.SubmissionAgreement
import SentinelApex.Runtime.KillSwitchOverlap
import SentinelApex.Runtime.PostCycleEvaluation
import SentinelApex.Runtime.RecoverySoundness
import SentinelApex.Carry.SpotPerpCoordination
import SentinelApex.Carry.JointBudget
import SentinelApex.Carry.ConcentrationLimits
import SentinelApex.Treasury.RedemptionOverlap
import SentinelApex.Treasury.JointDeposits
import SentinelApex.CexVerification.AccountingMethods
import SentinelApex.Runtime.PositionPairing
import SentinelApex.Runtime.FindingVerdicts
import SentinelApex.Execution.PositionReconciliation
import SentinelApex.Execution.OrderReconciliation
import SentinelApex.Runtime.BookBalance
import SentinelApex.Allocator.StressMonotone
import SentinelApex.Treasury.ReserveRedemptions
import SentinelApex.VenueAdapters.FillReplay
import SentinelApex.Backtest.HedgeExits
import SentinelApex.Backtest.RunStatus
import SentinelApex.Carry.OpportunityAccounting
import SentinelApex.Carry.PlanStatus
import SentinelApex.Carry.ExecutionOrder
import SentinelApex.Carry.ReductionIntents
import SentinelApex.Carry.RollingWindows
import SentinelApex.Carry.PerformancePeriods
import SentinelApex.CexVerification.CsvQuoting
import SentinelApex.CexVerification.ImportedTrades
import SentinelApex.Runtime.LedgerPositions
import SentinelApex.RiskEngine.SizeMonotone
import SentinelApex.Runtime.LockExpiry
import SentinelApex.Runtime.CarryLegs
import SentinelApex.Backtest.EntryCash
import SentinelApex.VenueAdapters.IdentityMetadata
