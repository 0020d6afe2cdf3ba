import FuboxApi.CaptureOnce
import FuboxApi.CaptureReversal
import FuboxApi.CreditCounting
import FuboxApi.InMemoryWriterBudgets
import FuboxApi.InMemoryWriterProjection
import FuboxApi.InMemoryWriterReplay
import FuboxApi.MoneyReturningWrites
import FuboxApi.PostgresExecutionAgreement
import FuboxApi.PostgresProtocol
import FuboxApi.PostgresSoundness
import FuboxApi.GatewayLedgerGrowth
import FuboxApi.PaidReserveRelease
import FuboxApi.PreAuthorization
import FuboxApi.VirtualKeyMinutes
import FuboxApi.VoucherRedemptions
import FuboxApi.AdminRefunds
import FuboxApi.ProviderKeyBalance
import FuboxApi.RateLimitAccounting
import FuboxApi.PriorityPacking
import FuboxApi.TraceAffinityRouting
import FuboxApi.RouteSnapshot
import FuboxApi.SseEventData
import FuboxApi.SseSizeLimit
import FuboxApi.StreamDelivery
import FuboxApi.UsageExtraction
import FuboxApi.CreditGrantLifecycle
import FuboxApi.DecimalRoundTrip
import FuboxApi.ExactCacheSettlement
import FuboxApi.LoginBruteForce
import FuboxApi.SubscriptionRenewals
import FuboxApi.IpAllowlists
import FuboxApi.ProviderSecretRedaction
import FuboxApi.ConfiguredRules
import FuboxApi.TerminalDetection
import FuboxApi.UrlUserinfo
import FuboxApi.RedactionWork
import FuboxApi.ProviderKeySealing
import FuboxApi.Base64Text
import FuboxApi.JsonProbes
