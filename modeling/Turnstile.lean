import Turnstile.Text.Blank
import Turnstile.Text.DecimalDigit
import Turnstile.Text.Uppercase
import Turnstile.Text.Lowercase
import Turnstile.Text.Pattern
import Turnstile.Digest.Sha256
import Turnstile.Digest.Argon2
import Turnstile.Error
import Turnstile.Time
import Turnstile.Uuid
import Turnstile.Phone
import Turnstile.Email
import Turnstile.Password.Policy
import Turnstile.Password.Hash
import Turnstile.Json.Reader
import Turnstile.Token.Access
import Turnstile.Token.Refresh
import Turnstile.Rights.Algebra
import Turnstile.Role
import Turnstile.Contexts
import Turnstile.Store.Credentials
import Turnstile.Store.Ledger
import Turnstile.Store.Rights
import Turnstile.Store.Contexts
import Turnstile.Operation
import Turnstile.Http.Bearer
import Turnstile.Http.Body
import Turnstile.Build
import Turnstile.Calendar
import Turnstile.Http.Reply
import Turnstile.Ulid
import Turnstile.OpenApi.Document
import Turnstile.Http.Service
import Turnstile.Url.Address
import Turnstile.Url.Basic
import Turnstile.Cli.Argument
import Turnstile.Cli.Log
import Turnstile.Cli.Parse
import Turnstile.Cli.Startup
import Turnstile.Cli.Run
import Turnstile.Main
import Turnstile.Proofs.Outcomes
import Turnstile.Proofs.CommandLine
import Turnstile.Proofs.Splitting
import Turnstile.Proofs.Userinfo
import Turnstile.Proofs.Redaction
import Turnstile.Proofs.RightsRequests
import Turnstile.Proofs.Actions
import Turnstile.Proofs.Frames
import Turnstile.Proofs.Runs
import Turnstile.Proofs.Lockout
import Turnstile.Proofs.Accounts
import Turnstile.Proofs.Authentication
import Turnstile.Proofs.Throttling
import Turnstile.Proofs.Sessions
import Turnstile.Proofs.Guard
import Turnstile.Proofs.Extent
import Turnstile.Proofs.Acceptance
import Turnstile.Proofs.Encodings
import Turnstile.Proofs.Rendering
import Turnstile.Proofs.Issuance
import Turnstile.Proofs.Uniqueness
import Turnstile.Proofs.Passwords
import Turnstile.Proofs.Admission
import Turnstile.Proofs.RefreshTokens
import Turnstile.Proofs.Lifetimes
import Turnstile.Proofs.Administration
import Turnstile.Proofs.Effects
import Turnstile.Proofs.Compactness
import Turnstile.Proofs.Refusals
import Turnstile.Proofs.ByteOrder
import Turnstile.Proofs.ContextRows
import Turnstile.Proofs.Scopes
import Turnstile.Proofs.Targets
import Turnstile.Store.Call
import Turnstile.Store.Sql
import Turnstile.Proofs.Absence
import Turnstile.Proofs.Answers
import Turnstile.Proofs.Disclosure
import Turnstile.Proofs.Insertion
import Turnstile.Proofs.Unavailability
import Turnstile.Proofs.Phones
import Turnstile.Proofs.Ledger
import Turnstile.Proofs.Secrecy
import Turnstile.Proofs.NormalForms
import Turnstile.Proofs.Patterns
import Turnstile.Proofs.Emails
import Turnstile.Proofs.RightsForms
import Turnstile.Proofs.Registry
import Turnstile.Proofs.Merging
import Turnstile.Proofs.Revocation
import Turnstile.Proofs.RetryAfter
import Turnstile.Proofs.Independence
