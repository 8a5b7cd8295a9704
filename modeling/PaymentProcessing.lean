import PaymentProcessing.TransitionRuns
import PaymentProcessing.KeyedTable
import PaymentProcessing.JobStore
import PaymentProcessing.StateMachine
import PaymentProcessing.Repositories
import PaymentProcessing.PaymentService
import PaymentProcessing.WebhookService
import PaymentProcessing.Transactions
import PaymentProcessing.PaymentSystem
import PaymentProcessing.SystemSteps
import PaymentProcessing.Lifecycle
import PaymentProcessing.IdempotentCreation
import PaymentProcessing.AttemptAccounting
import PaymentProcessing.CallTraces
import PaymentProcessing.QueuedPayments
import PaymentProcessing.JobHolding
import PaymentProcessing.ReleaseHandover
import PaymentProcessing.ClaimExclusion
import PaymentProcessing.SupersededClaims
import PaymentProcessing.WebhookLedger
import PaymentProcessing.ArrivalOrder
import PaymentProcessing.ColumnCoherence
import PaymentProcessing.StaleSweeps
import PaymentProcessing.SettledRecords
import PaymentProcessing.CaptureCounts
import PaymentProcessing.RetryBudget
import PaymentProcessing.RolledBackSettles
import PaymentProcessing.SweepLoop
import PaymentProcessing.SweepChoices
import PaymentProcessing.InterruptedSweeps
import PaymentProcessing.SweepRecovery
import PaymentProcessing.RowLocking
import PaymentProcessing.ServiceStatements
import PaymentProcessing.TransactionStatements
import PaymentProcessing.LockOrder
import PaymentProcessing.WorkerDrain
import PaymentProcessing.SweepLatency
import PaymentProcessing.RepeatedCallbacks
import PaymentProcessing.SettlementProvenance
import PaymentProcessing.PaymentIndependence
import PaymentProcessing.RetryLoop
import PaymentProcessing.ClientReadings
import PaymentProcessing.HttpApi
import PaymentProcessing.RetryBackoff
import PaymentProcessing.GatewayOutcomes
import PaymentProcessing.CrashRecovery
