import Rehearsal.Assertion
import Rehearsal.Containment
import Rehearsal.Error
import Rehearsal.FaultKind
import Rehearsal.Generator
import Rehearsal.Handle
import Rehearsal.Hash.Sha256
import Rehearsal.Host.Client
import Rehearsal.Host.Compression
import Rehearsal.Host.Cookie
import Rehearsal.Host.Disk
import Rehearsal.Host.Failure
import Rehearsal.Host.HostName
import Rehearsal.Host.Inflate
import Rehearsal.Host.Machine
import Rehearsal.Host.Path
import Rehearsal.Host.Redirect
import Rehearsal.Host.Run
import Rehearsal.Host.Staged
import Rehearsal.Host.Stream
import Rehearsal.Host.Url
import Rehearsal.HttpMethod
import Rehearsal.Json.Basic
import Rehearsal.Json.Canonical
import Rehearsal.Json.Encoding
import Rehearsal.Json.Read
import Rehearsal.Number.Basic
import Rehearsal.Number.Digits
import Rehearsal.Number.Double
import Rehearsal.Number.Round
import Rehearsal.Number.Shortest
import Rehearsal.Number.Text
import Rehearsal.Program.Assert
import Rehearsal.Program.Basic
import Rehearsal.Program.Operand
import Rehearsal.Program.Request
import Rehearsal.Schema.Check
import Rehearsal.Schema.Equality
import Rehearsal.Schema.Keyword
import Rehearsal.Schema.Pattern
import Rehearsal.Schema.Report
import Rehearsal.Script.Action
import Rehearsal.Script.Build
import Rehearsal.Script.Expr
import Rehearsal.Settings.Basic
import Rehearsal.Settings.Numeral
import Rehearsal.Settings.Read
import Rehearsal.Settings.StartTime
import Rehearsal.Settings.Violation
import Rehearsal.Simulated.Aftermath
import Rehearsal.Simulated.Responder
import Rehearsal.Simulated.Run
import Rehearsal.Sort.Adaptive
import Rehearsal.Sort.Merge
import Rehearsal.Sort.Search
import Rehearsal.Summary
import Rehearsal.Text.Blank
import Rehearsal.Text.Cased
import Rehearsal.Text.CodePoint
import Rehearsal.Text.Combining
import Rehearsal.Text.Composition
import Rehearsal.Text.Decimal
import Rehearsal.Text.Direction
import Rehearsal.Text.Joining
import Rehearsal.Text.Literal
import Rehearsal.Text.Lowercase
import Rehearsal.Text.NameCharacter
import Rehearsal.Text.Outline
import Rehearsal.Text.Punycode
import Rehearsal.Text.Script
import Rehearsal.Text.Template
import Rehearsal.Text.Units
import Rehearsal.Text.Unprintable
import Rehearsal.Text.Utf8
import Rehearsal.Time.Calendar
import Rehearsal.Time.Duration
import Rehearsal.Time.HeaderDate
import Rehearsal.Time.Instant
import Rehearsal.Tree
import Rehearsal.Value.Arithmetic
import Rehearsal.Value.Basic
import Rehearsal.Value.Draw
import Rehearsal.Value.Equality
import Rehearsal.Value.Literal
import Rehearsal.Value.Order
import Rehearsal.Value.Outline
import Rehearsal.Value.Parts
import Rehearsal.Value.Response
import Rehearsal.Value.Slots
import Rehearsal.Value.Summary
import Rehearsal.Wording
import Rehearsal.Proofs.Body.Chain
import Rehearsal.Proofs.Run.Step
import Rehearsal.Proofs.Run.Ledger
import Rehearsal.Proofs.Run.Logs
import Rehearsal.Proofs.Run.Mirror
import Rehearsal.Proofs.Script.Alike
import Rehearsal.Proofs.Script.Console
import Rehearsal.Proofs.Run.Clock
import Rehearsal.Proofs.Run.Footprint
import Rehearsal.Proofs.Run.Commute
import Rehearsal.Proofs.Host.Frame
import Rehearsal.Proofs.Host.Report
import Rehearsal.Proofs.Run.Exchange
import Rehearsal.Proofs.Number.Digits
import Rehearsal.Proofs.Number.Layout
import Rehearsal.Proofs.Json.Quote
import Rehearsal.Proofs.Time.Written
import Rehearsal.Proofs.Json.Prefix
import Rehearsal.Proofs.Json.CanonicalBytes
import Rehearsal.Proofs.Json.Snapshot
import Rehearsal.Proofs.Summary.Fold
import Rehearsal.Proofs.Tree.Account
import Rehearsal.Proofs.Host.Files
import Rehearsal.Proofs.Host.Turns
import Rehearsal.Proofs.Host.Clients
import Rehearsal.Proofs.Number.Word
import Rehearsal.Proofs.Number.Nearest
import Rehearsal.Proofs.Time.Seconds
import Rehearsal.Proofs.Settings.Clock
import Rehearsal.Proofs.Run.Draws
import Rehearsal.Proofs.Json.Reordered
import Rehearsal.Proofs.Run.Register
import Rehearsal.Proofs.Schema.Report
import Rehearsal.Proofs.Host.Requests
import Rehearsal.Proofs.Json.Reduced
import Rehearsal.Proofs.Json.Projection
import Rehearsal.Proofs.Run.Between
import Rehearsal.Proofs.Host.Input
import Rehearsal.Proofs.Value.Contained
import Rehearsal.Proofs.Run.Opposite
import Rehearsal.Proofs.Json.Entries
import Rehearsal.Proofs.Generator.Orbit
import Rehearsal.Proofs.Tree.Malformed
import Rehearsal.Proofs.Summary.Grouping
