import HelsterApi.Authz.Overrides
import HelsterApi.Batch.Conservation
import HelsterApi.Billing.Atomicity
import HelsterApi.Billing.WalletContention
import HelsterApi.Channels.Affinity
import HelsterApi.Channels.Database
import HelsterApi.Channels.MultiKey
import HelsterApi.Channels.Removal
import HelsterApi.Convert.GeminiSchema
import HelsterApi.Convert.GeminiStream
import HelsterApi.Options.Backup
import HelsterApi.PerfMetrics.Conservation
import HelsterApi.Quota.CachedRecords
import HelsterApi.Quota.Coherence
import HelsterApi.Quota.RowWriters
import HelsterApi.RateLimits.Limiters
import HelsterApi.Relay.Attempts
import HelsterApi.Relay.DisabledFields
import HelsterApi.Relay.GroupAccess
import HelsterApi.Relay.ChannelAttempts
import HelsterApi.Sessions.Revocation
import HelsterApi.Ssrf.Dialer
import HelsterApi.Streaming.Scanner
import HelsterApi.Streaming.SingleAttempt
import HelsterApi.Subscriptions.Duplicates
import HelsterApi.Subscriptions.OrderLifecycle
import HelsterApi.Subscriptions.PurchaseLimit
import HelsterApi.Subscriptions.ResetProgress
import HelsterApi.Subscriptions.ResetRuns
import HelsterApi.Subscriptions.UsageBounds
import HelsterApi.SystemTasks.Recovery
import HelsterApi.Tasks.PollingPass
import HelsterApi.Tasks.Refunds
import HelsterApi.Tasks.SubmissionCharge
import HelsterApi.Tasks.TokenRecalculation
import HelsterApi.Tasks.Winners
import HelsterApi.TextBilling.ExprCache
import HelsterApi.TextBilling.StreamEquivalence
import HelsterApi.TextBilling.TokenParams
import HelsterApi.TwoFactor.BackupCodes
import HelsterApi.TwoFactor.Lockout
