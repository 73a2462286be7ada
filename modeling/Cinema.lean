import Cinema.Interleaving.Program
import Cinema.Interleaving.Pool
import Cinema.Interleaving.Answered
import Cinema.Interleaving.Timeline
import Cinema.Interleaving.RelyGuarantee
import Cinema.Interleaving.Remote
import Cinema.Interleaving.Provenance
import Cinema.Interleaving.Sequential
import Cinema.Interleaving.Coupling
import Cinema.Interleaving.Progress
import Cinema.Interleaving.Failures
import Cinema.Interleaving.Moments
import Cinema.Interleaving.Commitment
import Cinema.Interleaving.Atomicity
import Cinema.Relational.Column
import Cinema.Relational.Table
import Cinema.Relational.Repository
import Cinema.Numerics.Rounding
import Cinema.Numerics.Nearest
import Cinema.Text.Normalization
import Cinema.Text.Utf8
import Cinema.Shared.Json
import Cinema.Shared.Exceptions
import Cinema.Shared.ErrorContract
import Cinema.Shared.Validation
import Cinema.Shared.Dtos
import Cinema.Surroundings
import Cinema.Catalog.Movie
import Cinema.Catalog.MoviesService
import Cinema.Orders.Order
import Cinema.Orders.OrdersService
import Cinema.Orders.OrderTable
import Cinema.Orders.Totals
import Cinema.Backend
import Cinema.Catalog.Handlers
import Cinema.Catalog.Rules
import Cinema.Catalog.Updates
import Cinema.Catalog.Deletion
import Cinema.Catalog.Alone
import Cinema.Catalog.Conflicts
import Cinema.Catalog.Fit
import Cinema.Orders.Handlers
import Cinema.Orders.Ledger
import Cinema.Orders.Cancellation
import Cinema.Orders.Isolation
import Cinema.Auth.User
import Cinema.Auth.Dtos
import Cinema.Auth.AuthService
import Cinema.Gateway.Controllers
import Cinema.System
import Cinema.System.Forwarding
import Cinema.System.AuthHandlers
import Cinema.System.Accounts
import Cinema.System.AuthHistory
import Cinema.System.Login
import Cinema.System.Credentials
import Cinema.System.Passwords
import Cinema.System.Registrations
import Cinema.System.Authority
import Cinema.System.Purchase
import Cinema.System.Missing
import Cinema.System.Secrecy
import Cinema.System.Progress
import Cinema.System.Contract
import Cinema.System.Agreement
import Cinema.System.Refinement
import Cinema.System.Snapshots
import Cinema.System.Writes
import Cinema.System.Sessions
import Cinema.System.Changes
import Cinema.System.Receipts
import Cinema.System.Profiles
