import ChainworksForge.Condition.Tree
import ChainworksForge.Condition.Agreement
import ChainworksForge.Workflow.Escalation
import ChainworksForge.Workflow.ContinuationSafety
import ChainworksForge.Engine.LoopBudget
import ChainworksForge.Engine.ApprovalFacts
import ChainworksForge.Engine.Phases
import ChainworksForge.Routing.CandidateOrder
import ChainworksForge.Queue.PayloadAgreement
import ChainworksForge.Queue.AttemptFencing
import ChainworksForge.Queue.ClaimInvariant
import ChainworksForge.Queue.AcceptedWork
import ChainworksForge.Queue.RequeueBudget
import ChainworksForge.Queue.WakeUp
import ChainworksForge.Queue.TargetedRetry
import ChainworksForge.Queue.DueTime
import ChainworksForge.Session.LiveReuse
import ChainworksForge.Gate.Reordering
import ChainworksForge.Ledger.Monotone
import ChainworksForge.Idempotency.Wedge
import ChainworksForge.Release.Legality
import ChainworksForge.Release.Starvation
import ChainworksForge.Closeout.ManualRelease
import ChainworksForge.Audit.Partition
import ChainworksForge.Audit.Tamper
import ChainworksForge.Writer.LastWriterWins
import ChainworksForge.Scheduler.Backpressure
import ChainworksForge.Scheduler.Independence
import ChainworksForge.Xcode.SentOnce
import ChainworksForge.HotRead.Circuit
import ChainworksForge.HotRead.Breaker
import ChainworksForge.Evidence.Spool
import ChainworksForge.Evidence.Sweep
import ChainworksForge.Evidence.Progress
import ChainworksForge.Evidence.Recovery
import ChainworksForge.Release.Refusal
import ChainworksForge.Closeout.BlockerDigest
import ChainworksForge.Session.Churn
import ChainworksForge.Redaction.Sanitizer
import ChainworksForge.Redaction.Scan
import ChainworksForge.Redaction.Independence
import ChainworksForge.Provider.FailureClassifier
import ChainworksForge.Provider.NoPanic
import ChainworksForge.Provider.NextReset
import ChainworksForge.Engine.EntryDispatch
import ChainworksForge.Condition.NoPanic
import ChainworksForge.Workflow.StrictYaml
import ChainworksForge.Workflow.DirectCommandLint
import ChainworksForge.Worktree.StatusRecovery
import ChainworksForge.Engine.LoopExtension
import ChainworksForge.Scheduler.QuotaWait
import ChainworksForge.Shutdown.Dispatch
import ChainworksForge.Continuation.Admission
import ChainworksForge.Continuation.Caps
import ChainworksForge.Projection.Backlog
import ChainworksForge.Shutdown.KillOrder
import ChainworksForge.Shutdown.Survivor
