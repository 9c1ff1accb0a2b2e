import RoutingPolicy.Ad.Eval
import RoutingPolicy.Ad.Expr
import RoutingPolicy.Ad.Guard
import RoutingPolicy.Ad.JobAd
import RoutingPolicy.Ad.Text
import RoutingPolicy.Ad.Value
import RoutingPolicy.Collections.Distinct
import RoutingPolicy.Collections.SortedMap
import RoutingPolicy.Collections.SortedSet
import RoutingPolicy.CommandLine.Arguments
import RoutingPolicy.CommandLine.Failure
import RoutingPolicy.CommandLine.Folder
import RoutingPolicy.CommandLine.Invocation
import RoutingPolicy.CommandLine.Location
import RoutingPolicy.CommandLine.Run
import RoutingPolicy.CommandLine.Settings
import RoutingPolicy.CommandLine.Usage
import RoutingPolicy.Compile.Correction
import RoutingPolicy.Compile.Entry
import RoutingPolicy.Compile.Hold
import RoutingPolicy.Compile.Options
import RoutingPolicy.Compile.Overflow
import RoutingPolicy.Compile.Policy
import RoutingPolicy.Compile.Ranking
import RoutingPolicy.Compile.Sites
import RoutingPolicy.Compile.Tuning
import RoutingPolicy.Digest.Sha256
import RoutingPolicy.Emit.Directive
import RoutingPolicy.Emit.Format
import RoutingPolicy.Emit.Output
import RoutingPolicy.Json.Basic
import RoutingPolicy.Json.Number
import RoutingPolicy.Json.Printer
import RoutingPolicy.Json.Reader
import RoutingPolicy.Main
import RoutingPolicy.Number.Binary64
import RoutingPolicy.Number.Decimal
import RoutingPolicy.Number.Integer
import RoutingPolicy.Policy.Document
import RoutingPolicy.Policy.Error
import RoutingPolicy.Policy.Reader
import RoutingPolicy.Policy.Threshold
import RoutingPolicy.Proofs.Ad.Reading
import RoutingPolicy.Proofs.Compile.Claims
import RoutingPolicy.Proofs.Compile.Rules
import RoutingPolicy.Proofs.Rule.Latch
import RoutingPolicy.Regex.Basic
import RoutingPolicy.Regex.CharSet
import RoutingPolicy.Regex.Footprint
import RoutingPolicy.Regex.Footprint.Budget
import RoutingPolicy.Regex.Footprint.Characters
import RoutingPolicy.Regex.Footprint.Words
import RoutingPolicy.Regex.Property
import RoutingPolicy.Regex.Reader
import RoutingPolicy.Regex.Reader.Bracket
import RoutingPolicy.Regex.Reader.Escape
import RoutingPolicy.Regex.Reader.Flags
import RoutingPolicy.Regex.Shape
import RoutingPolicy.Router.Run
import RoutingPolicy.Rule.Attribute
import RoutingPolicy.Rule.Basic
import RoutingPolicy.Rule.Category
import RoutingPolicy.Rule.Marker
import RoutingPolicy.Rule.Priority
import RoutingPolicy.Sample.Job
import RoutingPolicy.Sample.Policy
import RoutingPolicy.Site.Group
import RoutingPolicy.Site.List
import RoutingPolicy.Site.Mapping
import RoutingPolicy.Site.Name
import RoutingPolicy.Site.Whitelist
import RoutingPolicy.Text.Alphanumeric
import RoutingPolicy.Text.Blank
import RoutingPolicy.Text.ByteRange
import RoutingPolicy.Text.ByteSlice
import RoutingPolicy.Text.Case
import RoutingPolicy.Text.CaseOrbit
import RoutingPolicy.Text.CharTable
import RoutingPolicy.Text.CharTable.Lemmas
import RoutingPolicy.Text.Diagnostic
import RoutingPolicy.Text.Digit
import RoutingPolicy.Text.GeneralCategory
import RoutingPolicy.Text.Hex
import RoutingPolicy.Text.Lines
import RoutingPolicy.Text.Printable
import RoutingPolicy.Text.Script
import RoutingPolicy.Text.WordChar
import RoutingPolicy.Proofs.Compile.Family
import RoutingPolicy.Proofs.Compile.Writes
import RoutingPolicy.Proofs.Compile.SelfDisabling
import RoutingPolicy.Proofs.Compile.OneShot
import RoutingPolicy.Proofs.Compile.Place
import RoutingPolicy.Proofs.Compile.Exclusion
import RoutingPolicy.Proofs.Regex.Literal
import RoutingPolicy.Proofs.Site.Entries
import RoutingPolicy.Proofs.Compile.Convergence
import RoutingPolicy.Proofs.Compile.Alternation
import RoutingPolicy.Proofs.Ad.Stored
import RoutingPolicy.Proofs.Compile.Whitelist
import RoutingPolicy.Proofs.Compile.Interleaving
import RoutingPolicy.Proofs.Compile.Precedence
import RoutingPolicy.Proofs.Compile.Sites
import RoutingPolicy.Proofs.Compile.Quiet
import RoutingPolicy.Proofs.Compile.StayingOut
import RoutingPolicy.Proofs.Compile.Parking
import RoutingPolicy.Proofs.Number.Shortest
import RoutingPolicy.Proofs.Text.Reader
import RoutingPolicy.Proofs.Ad.NameReader
import RoutingPolicy.Proofs.Ad.ValueReader
import RoutingPolicy.Proofs.Ad.Folding
import RoutingPolicy.Proofs.Ad.ExprReader
import RoutingPolicy.Proofs.Ad.Unambiguous
import RoutingPolicy.Proofs.Collections.Values
import RoutingPolicy.Proofs.Rule.Content
import RoutingPolicy.Proofs.Emit.RuleReader
import RoutingPolicy.Proofs.Emit.Clash
import RoutingPolicy.Proofs.Compile.Emission
import RoutingPolicy.Proofs.Site.Destinations
import RoutingPolicy.Proofs.Compile.OverflowContent
import RoutingPolicy.Proofs.Compile.Content
import RoutingPolicy.Proofs.Compile.InvalidSites
import RoutingPolicy.Proofs.Compile.Rearrangement
import RoutingPolicy.Proofs.Policy.SetLike
import RoutingPolicy.Proofs.Site.Canonical
import RoutingPolicy.Proofs.Compile.Expansion
import RoutingPolicy.Proofs.Compile.Restoration
import RoutingPolicy.Proofs.Compile.Preservation
import RoutingPolicy.Proofs.Compile.PriorityKeys
import RoutingPolicy.Proofs.CommandLine.Failing
import RoutingPolicy.Proofs.Compile.Partition
import RoutingPolicy.Proofs.Compile.OverflowPartition
import RoutingPolicy.Proofs.Ad.References
import RoutingPolicy.Proofs.Ad.Substitution
import RoutingPolicy.Proofs.Ad.Cycles
import RoutingPolicy.Proofs.Ad.Spelling
import RoutingPolicy.Proofs.Number.Quotient
import RoutingPolicy.Proofs.Compile.Retuning
import RoutingPolicy.Proofs.Compile.Corrections
import RoutingPolicy.Proofs.Compile.Recurrence
import RoutingPolicy.Proofs.Ad.Arithmetic
import RoutingPolicy.Proofs.Ad.Conjunction
import RoutingPolicy.Proofs.Router.Composition
import RoutingPolicy.Proofs.Ad.SiteMapping
import RoutingPolicy.Proofs.Text.Trimming
import RoutingPolicy.Proofs.Site.Parts
import RoutingPolicy.Proofs.Regex.Spans
import RoutingPolicy.Proofs.Text.CaseFolding
import RoutingPolicy.Proofs.Regex.CharSets
import RoutingPolicy.Proofs.Site.Pattern
import RoutingPolicy.Proofs.Site.Operations
import RoutingPolicy.Proofs.Rule.SiteMarker
import RoutingPolicy.Proofs.Rule.SiteCount
import RoutingPolicy.Proofs.Site.Groups
import RoutingPolicy.Proofs.Emit.Refusal
import RoutingPolicy.Proofs.Compile.Names
import RoutingPolicy.Proofs.Policy.Merging
import RoutingPolicy.Proofs.Number.Whole
import RoutingPolicy.Proofs.Policy.Notation
import RoutingPolicy.Proofs.Policy.ZeroFraction
import RoutingPolicy.Proofs.Collections.Lookup
import RoutingPolicy.Proofs.Policy.Members
import RoutingPolicy.Proofs.Policy.Shape
import RoutingPolicy.Proofs.Policy.Parsing
import RoutingPolicy.Proofs.Policy.Union
import RoutingPolicy.Proofs.Policy.OverflowKeys
import RoutingPolicy.Proofs.Ad.Identity
import RoutingPolicy.Proofs.Ad.History
import RoutingPolicy.Proofs.Ad.Quotation
import RoutingPolicy.Proofs.Ad.Documents
