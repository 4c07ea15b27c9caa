import TokenGate.Crypto.Ecdsa
import TokenGate.Crypto.Rsa
import TokenGate.Crypto.Sha2
import TokenGate.Decimal.Binary64
import TokenGate.Decimal.Shortest
import TokenGate.Der.Basic
import TokenGate.Der.Certificate
import TokenGate.Fetch.Error
import TokenGate.Fetch.Exchange
import TokenGate.Fetch.Fetcher
import TokenGate.Http.Authentication
import TokenGate.Http.Layers
import TokenGate.Http.Message
import TokenGate.Http.Service
import TokenGate.Http.Target
import TokenGate.Json.Basic
import TokenGate.Json.Fields
import TokenGate.Json.Printer
import TokenGate.Json.Reader
import TokenGate.Json.Token
import TokenGate.Key.Algorithm
import TokenGate.Key.Cache
import TokenGate.Key.Jwk
import TokenGate.Key.Policy
import TokenGate.Key.Set
import TokenGate.Key.Shared
import TokenGate.Key.Signing
import TokenGate.Launch.Basic
import TokenGate.Launch.CommandLine
import TokenGate.Launch.Flag
import TokenGate.Log
import TokenGate.Main
import TokenGate.Net.Address
import TokenGate.Net.Ipv4
import TokenGate.Net.Ipv6
import TokenGate.Octets
import TokenGate.Proofs.Fetch.Body
import TokenGate.Proofs.Fetch.Document
import TokenGate.Proofs.Fetch.Requests
import TokenGate.Proofs.Http.Gate
import TokenGate.Proofs.Http.Identity
import TokenGate.Proofs.Json.Kept
import TokenGate.Proofs.Json.Numeral
import TokenGate.Proofs.Json.Written
import TokenGate.Proofs.Key.Admission
import TokenGate.Proofs.Key.Entry
import TokenGate.Proofs.Key.Filter
import TokenGate.Proofs.Key.Installs
import TokenGate.Proofs.Key.Material
import TokenGate.Proofs.Key.Shared
import TokenGate.Proofs.Key.Usable
import TokenGate.Proofs.Key.Written
import TokenGate.Proofs.Refresh.Accounting
import TokenGate.Proofs.Refresh.Cadence
import TokenGate.Proofs.Refresh.Cancellation
import TokenGate.Proofs.Refresh.Counters
import TokenGate.Proofs.Refresh.FirstInstall
import TokenGate.Proofs.Refresh.History
import TokenGate.Proofs.Refresh.Idle
import TokenGate.Proofs.Refresh.Latest
import TokenGate.Proofs.Refresh.Steps
import TokenGate.Proofs.Result
import TokenGate.Proofs.Server.Decision
import TokenGate.Proofs.Server.Keys
import TokenGate.Proofs.Server.Readiness
import TokenGate.Proofs.Server.Retirement
import TokenGate.Proofs.Server.Startup
import TokenGate.Proofs.Settings.Derived
import TokenGate.Proofs.Settings.Hosted
import TokenGate.Proofs.Settings.Usable
import TokenGate.Proofs.Telemetry.Attempts
import TokenGate.Proofs.Text.Ascii
import TokenGate.Proofs.Text.Base64
import TokenGate.Proofs.Text.Pieces
import TokenGate.Proofs.Text.Words
import TokenGate.Proofs.Token.Acceptance
import TokenGate.Proofs.Token.Bearer
import TokenGate.Proofs.Token.Checks
import TokenGate.Proofs.Token.Credentials
import TokenGate.Proofs.Token.Discretion
import TokenGate.Proofs.Token.Lifetime
import TokenGate.Proofs.Token.Members
import TokenGate.Proofs.Token.Provenance
import TokenGate.Proofs.Token.Reading
import TokenGate.Proofs.Token.Segments
import TokenGate.Proofs.Token.Serialized
import TokenGate.Proofs.Token.Session
import TokenGate.Proofs.Token.Verdict
import TokenGate.Proofs.Url.Edge
import TokenGate.Proofs.Url.Extended
import TokenGate.Proofs.Url.Name
import TokenGate.Proofs.Url.Web
import TokenGate.Refresh.Cycle
import TokenGate.Refresh.Loop
import TokenGate.Refresh.Timeline
import TokenGate.Server.Serving
import TokenGate.Server.Startup
import TokenGate.Settings.Basic
import TokenGate.Settings.Resolution
import TokenGate.Telemetry.Config
import TokenGate.Telemetry.Directive
import TokenGate.Telemetry.Filter
import TokenGate.Telemetry.Outlet
import TokenGate.Telemetry.Record
import TokenGate.Text.Alphanumeric
import TokenGate.Text.Base64
import TokenGate.Text.Blank
import TokenGate.Text.Class
import TokenGate.Text.Composition
import TokenGate.Text.Cursive
import TokenGate.Text.Digits
import TokenGate.Text.Direction
import TokenGate.Text.Folding
import TokenGate.Text.Punycode
import TokenGate.Text.Quoted
import TokenGate.Text.Symbol
import TokenGate.Text.Table
import TokenGate.Time.Duration
import TokenGate.Token.Bearer
import TokenGate.Token.Claims
import TokenGate.Token.Error
import TokenGate.Token.Header
import TokenGate.Token.Session
import TokenGate.Token.Signature
import TokenGate.Token.Validation
import TokenGate.Url.Basic
import TokenGate.Url.Domain
import TokenGate.Url.Host
import TokenGate.Url.Join
import TokenGate.Url.Parser
import TokenGate.Url.Percent
