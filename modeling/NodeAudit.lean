import NodeAudit.Bench.Schedule
import NodeAudit.Bench.Stress
import NodeAudit.Bench.Summary
import NodeAudit.Cli.Arguments
import NodeAudit.Cli.Printed
import NodeAudit.Cli.Session
import NodeAudit.Config
import NodeAudit.Config.Review
import NodeAudit.Decimal.Digits
import NodeAudit.Decimal.Magnitude
import NodeAudit.Decimal.Shortest
import NodeAudit.Decimal.Unsigned
import NodeAudit.Entries
import NodeAudit.Environment
import NodeAudit.Environment.File
import NodeAudit.Failure
import NodeAudit.Files
import NodeAudit.Http.CannedNode
import NodeAudit.Http.Exchange
import NodeAudit.Http.SampleNode
import NodeAudit.Http.Server
import NodeAudit.Http.Status
import NodeAudit.Http.Wire
import NodeAudit.Json.Basic
import NodeAudit.Json.Decode
import NodeAudit.Json.Document
import NodeAudit.Json.NumberLiteral
import NodeAudit.Json.Printer
import NodeAudit.Json.Reader
import NodeAudit.Profile.Credential
import NodeAudit.Profile.Gas
import NodeAudit.Profile.Network
import NodeAudit.Profile.Provider
import NodeAudit.Profile.Resolve
import NodeAudit.Redaction
import NodeAudit.Rpc.Message
import NodeAudit.Rpc.Method
import NodeAudit.Rpc.Script
import NodeAudit.Rpc.Transport
import NodeAudit.Span
import NodeAudit.Suite.Expectation
import NodeAudit.Suite.Metric
import NodeAudit.Suite.Report
import NodeAudit.Suite.Run
import NodeAudit.Suite.Scenario
import NodeAudit.Text.Alphanumeric
import NodeAudit.Text.Blank
import NodeAudit.Text.Composed
import NodeAudit.Text.Direction
import NodeAudit.Text.Escaped
import NodeAudit.Text.Joining
import NodeAudit.Text.Marks
import NodeAudit.Text.Parts
import NodeAudit.Text.Quoted
import NodeAudit.Text.Ranges
import NodeAudit.Text.Shown
import NodeAudit.Text.Table
import NodeAudit.Toml.Lexeme
import NodeAudit.Toml.Reader
import NodeAudit.Toml.Table
import NodeAudit.Url.Address
import NodeAudit.Url.Basic
import NodeAudit.Url.Domain.Ascii
import NodeAudit.Url.Domain.Mapping
import NodeAudit.Url.Host
import NodeAudit.Url.Path
import NodeAudit.Url.Percent
import NodeAudit.Url.Punycode
import NodeAudit.Url.Reader
import NodeAudit.Main
import NodeAudit.Proofs.Bench.Account
import NodeAudit.Proofs.Bench.Schedule
import NodeAudit.Proofs.Suite.Run
import NodeAudit.Proofs.Profile.Problems
import NodeAudit.Proofs.Collect
import NodeAudit.Proofs.Profile.Resolve
import NodeAudit.Proofs.Redaction.Clean
import NodeAudit.Proofs.Cli.Secrets
import NodeAudit.Proofs.Redaction.Address
import NodeAudit.Proofs.Cli.Credentials
import NodeAudit.Proofs.Cli.Sent
import NodeAudit.Proofs.Json.Record
import NodeAudit.Proofs.Cli.Endpoint
import NodeAudit.Proofs.Json.Spelling
import NodeAudit.Proofs.Files
import NodeAudit.Proofs.Json.Decode
import NodeAudit.Proofs.Reports
import NodeAudit.Proofs.Cli.Checks
import NodeAudit.Proofs.Json.Lexeme
import NodeAudit.Proofs.Json.Extent
import NodeAudit.Proofs.Json.Compact
import NodeAudit.Proofs.Json.ObjectText
import NodeAudit.Proofs.Rpc.Codec
import NodeAudit.Proofs.Cli.Run
import NodeAudit.Proofs.Decimal.Magnitude
import NodeAudit.Proofs.Decimal.Shortest
import NodeAudit.Proofs.Json.NumberText
import NodeAudit.Proofs.Http.Exchange
import NodeAudit.Proofs.Http.SampleNode
import NodeAudit.Proofs.Http.Server
import NodeAudit.Proofs.Suite.Catalogue
import NodeAudit.Proofs.Bench.Stress
import NodeAudit.Proofs.SampleNode
import NodeAudit.Proofs.Cli.Obstacles
import NodeAudit.Proofs.Redaction.Blanks
import NodeAudit.Proofs.Redaction.Words
import NodeAudit.Proofs.Suite.Acceptance
import NodeAudit.Proofs.Bench.Blocks
import NodeAudit.Proofs.Span
import NodeAudit.Proofs.Bench.Average
import NodeAudit.Proofs.Environment
import NodeAudit.Proofs.Decimal.Unsigned
import NodeAudit.Proofs.Profile.Gas
import NodeAudit.Proofs.Profile.Footprint
import NodeAudit.Proofs.Profile.Parts
import NodeAudit.Proofs.Profile.Key
import NodeAudit.Proofs.Profile.HandOver
import NodeAudit.Proofs.Config.Review
import NodeAudit.Proofs.Json.Members
import NodeAudit.Proofs.Config.Partial
