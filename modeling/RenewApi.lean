import RenewApi.Billing.Fencing
import RenewApi.Billing.Refundable
import RenewApi.Billing.Period
import RenewApi.Tasks.Mirror
import RenewApi.Tasks.Pass
import RenewApi.Tasks.Race
import RenewApi.Relay.Bounds
import RenewApi.Stream.Passthrough
import RenewApi.Stream.Preflight
import RenewApi.Stream.Status
import RenewApi.Billing.Delivery
import RenewApi.Payments.Credits
import RenewApi.Payments.Groups
import RenewApi.Tasks.Deadlock
import RenewApi.Cachex.Hybrid
import RenewApi.Channels.Upkeep
import RenewApi.Limits.Exact
import RenewApi.Limits.LeaseSafety
import RenewApi.Channels.Choice
import RenewApi.Channels.Edits
import RenewApi.Channels.Polling
import RenewApi.Channels.Status
import RenewApi.Channels.Circuit
import RenewApi.Channels.ModelFailures
import RenewApi.Sessions.Freshness
import RenewApi.Sessions.Keys
import RenewApi.Limits.EmailVerification
import RenewApi.Logs.Listing
import RenewApi.Metrics.Conservation
import RenewApi.Convert.Gemini
import RenewApi.Tasks.Pricing
import RenewApi.Quota.Tiered
import RenewApi.Relay.RouteBudget
import RenewApi.Batch.Counters
import RenewApi.Convert.Responses
import RenewApi.Convert.ToolSchema
