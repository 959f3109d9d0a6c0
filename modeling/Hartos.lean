import Hartos.WorkerTick
import Hartos.ClaimExclusion
import Hartos.SharedLedger
import Hartos.SaveOrder
import Hartos.TaskOrder
import Hartos.MessageSharing
import Hartos.VerificationConsensus
import Hartos.PaymentDurability
import Hartos.FinishedPayments
import Hartos.MandateIntegrity
import Hartos.BatcherRuns
import Hartos.ShutdownRuns
import Hartos.ComputeBooks
import Hartos.BudgetRuns
import Hartos.WalletConservation
import Hartos.QuotaBound
import Hartos.AdConservation
import Hartos.BorrowedSpark
import Hartos.PaidOnce
import Hartos.ChannelTicks
import Hartos.DeltaIdentity
import Hartos.SyncAuthority
import Hartos.DrainRuns
import Hartos.BusDelivery
import Hartos.RelayBounds
import Hartos.BatchReceipts
import Hartos.KeyRuns
import Hartos.AuditRuns
import Hartos.LinkAdmissions
import Hartos.SchedulerRuns
import Hartos.DrainLockRuns
import Hartos.QueueRuns
import Hartos.DrainOrder
import Hartos.StoredLedger
import Hartos.TaskCancellation
import Hartos.ClearedTasks
import Hartos.CriticalPath
import Hartos.Awareness
import Hartos.ResumableSession
import Hartos.RateLimitRuns
import Hartos.InboundDebouncer
import Hartos.LockAnswers
import Hartos.ForcedPath
import Hartos.InProgressIndex
import Hartos.DedupeRuns
import Hartos.ConversationRuns
import Hartos.LevelUps
import Hartos.UserFileClaims
import Hartos.SignalDecay
import Hartos.ExchangeTokens
import Hartos.RestoredActions
import Hartos.QueueOrder
import Hartos.QueueManager
import Hartos.WaiterWakeups
import Hartos.CartHash
import Hartos.CompletionCommit
import Hartos.InstallsLedger
import Hartos.HiveContest
import Hartos.SyncedWallet
import Hartos.LegacyTopics
import Hartos.HostingRewards
import Hartos.CircuitBreaker
import Hartos.TokenBucket
import Hartos.Friendships
