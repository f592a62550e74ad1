import RelayPay.Invariants.Conservation
import RelayPay.Invariants.Records
import RelayPay.Invariants.Recovery
import RelayPay.Invariants.Indeterminate
import RelayPay.Invariants.Recipients
import RelayPay.Reconcile.Report
import RelayPay.Statements.Runs
import RelayPay.Webhooks.Attempts
import RelayPay.Subscriptions.Counters
import RelayPay.Subscriptions.Invoices
import RelayPay.Events.Delivery
import RelayPay.Pagination.Pages
import RelayPay.Payments.Fees
import RelayPay.Settlement.Running
import RelayPay.Idempotency
import RelayPay.Provider.Evidence
import RelayPay.Workflows.Leases
import RelayPay.RiskReview.Scores
import RelayPay.Connectors.Convergence
import RelayPay.Intelligence.Windows
import RelayPay.BodyLimit
import RelayPay.Identity.RateLimit
import RelayPay.Intelligence.Zones
import RelayPay.Statements.Totality
import RelayPay.Subscriptions.Planning
import RelayPay.Provider.Cashfree
import RelayPay.Proof.Checks
import RelayPay.Intelligence.Answers
