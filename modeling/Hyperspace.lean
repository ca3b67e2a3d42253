import Hyperspace.Foundations.Doubles
import Hyperspace.Foundations.Greatest
import Hyperspace.Foundations.Loops
import Hyperspace.Foundations.Queries
import Hyperspace.Foundations.Runs
import Hyperspace.Foundations.Tables
import Hyperspace.Addressing.Allocation
import Hyperspace.Auth.GuessLimit
import Hyperspace.Auth.PreHijacking
import Hyperspace.Auth.SendLimits
import Hyperspace.Billing.Accruals
import Hyperspace.Billing.Amounts
import Hyperspace.Billing.Cooldowns
import Hyperspace.Billing.Custody
import Hyperspace.Billing.Debts
import Hyperspace.Billing.LedgerAgreement
import Hyperspace.Database.Migrations
import Hyperspace.Deposits.Conversion
import Hyperspace.Deposits.Recipients
import Hyperspace.Gate.PolicyRouting
import Hyperspace.Gate.RecoveryLimits
import Hyperspace.Gate.StatusTable
import Hyperspace.Gate.TunnelAgreement
import Hyperspace.Gate.UsageConserved
import Hyperspace.Http.RateLimits
import Hyperspace.Http.NotModified
import Hyperspace.Metering.CountedOnce
import Hyperspace.Notifications.DeliveredOnce
import Hyperspace.Notifications.NothingLost
import Hyperspace.Payments.ChargedOnce
import Hyperspace.Payments.RequestRetries
import Hyperspace.Payouts.PaidOnce
import Hyperspace.Payouts.SolanaAddresses
import Hyperspace.Probes.ProbeCycles
import Hyperspace.Probes.Projections
import Hyperspace.Probes.QueueFencing
import Hyperspace.Probes.RevokedTokens
import Hyperspace.Probes.TradingFencing
import Hyperspace.Provisioning.Addresses
import Hyperspace.Provisioning.Commits
import Hyperspace.Provisioning.CurrentPlans
import Hyperspace.Provisioning.DeploymentOutcomes
import Hyperspace.Provisioning.Downloads
import Hyperspace.Provisioning.FinalRevocation
import Hyperspace.Provisioning.HiddenSessions
import Hyperspace.Provisioning.JobReports
import Hyperspace.Provisioning.Quotas
import Hyperspace.Provisioning.ReconcileLoop
import Hyperspace.Provisioning.Repairs
import Hyperspace.Provisioning.SessionCaps
import Hyperspace.Rating.NeverWedged
import Hyperspace.Rating.Suspension
import Hyperspace.Scheduling.ChosenPaths
import Hyperspace.Sessions.Destinations
import Hyperspace.Trading.SoundPresets
