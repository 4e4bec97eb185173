import EvidenceTree.Assoc
import EvidenceTree.Binary64.Basic
import EvidenceTree.Binary64.Rounding
import EvidenceTree.Binary64.Shortest
import EvidenceTree.Binary64.Text
import EvidenceTree.Calendar.Date
import EvidenceTree.Calendar.Reader
import EvidenceTree.CommandLine.Command
import EvidenceTree.CommandLine.Grammar
import EvidenceTree.CommandLine.Reader
import EvidenceTree.CommandLine.Run
import EvidenceTree.Document.Basic
import EvidenceTree.Document.Build
import EvidenceTree.Document.Descriptor
import EvidenceTree.Evidence.Basic
import EvidenceTree.Evidence.Keys
import EvidenceTree.Evidence.Pairs
import EvidenceTree.Files.Basic
import EvidenceTree.Files.Snapshot
import EvidenceTree.Graph.Basic
import EvidenceTree.Graph.CycleSearch
import EvidenceTree.Graph.Height
import EvidenceTree.Graph.Walk
import EvidenceTree.Json.Basic
import EvidenceTree.Json.Fault
import EvidenceTree.Json.NumberText
import EvidenceTree.Json.Printer
import EvidenceTree.Json.Reader
import EvidenceTree.Json.Scan
import EvidenceTree.Json.Skip
import EvidenceTree.Live.State
import EvidenceTree.Loading.Failure
import EvidenceTree.Loading.Load
import EvidenceTree.Proofs.Binary64.Decimals
import EvidenceTree.Proofs.Binary64.Integers
import EvidenceTree.Proofs.Binary64.Numerals
import EvidenceTree.Proofs.Binary64.Rounding
import EvidenceTree.Proofs.Binary64.Shortest
import EvidenceTree.Proofs.Calendar.LeadingDates
import EvidenceTree.Proofs.CommandLine.Batch
import EvidenceTree.Proofs.CommandLine.ExitCodes
import EvidenceTree.Proofs.CommandLine.Overrides
import EvidenceTree.Proofs.CommandLine.Requests
import EvidenceTree.Proofs.CommandLine.Traces
import EvidenceTree.Proofs.Document.Acceptance
import EvidenceTree.Proofs.Document.Additions
import EvidenceTree.Proofs.Document.Descriptors
import EvidenceTree.Proofs.Document.Extensions
import EvidenceTree.Proofs.Document.Fields
import EvidenceTree.Proofs.Document.Fillings
import EvidenceTree.Proofs.Document.LaterChildren
import EvidenceTree.Proofs.Document.Layouts
import EvidenceTree.Proofs.Document.OwnBounds
import EvidenceTree.Proofs.Document.Profiles
import EvidenceTree.Proofs.Document.Refusals
import EvidenceTree.Proofs.Document.Reorderings
import EvidenceTree.Proofs.Document.Sequences
import EvidenceTree.Proofs.Document.ShownDescriptors
import EvidenceTree.Proofs.Document.Spelling
import EvidenceTree.Proofs.Evidence.PairLists
import EvidenceTree.Proofs.Evidence.Pairs
import EvidenceTree.Proofs.Evidence.Records
import EvidenceTree.Proofs.Graph.Cycles
import EvidenceTree.Proofs.Graph.Embeddings
import EvidenceTree.Proofs.Graph.Heights
import EvidenceTree.Proofs.Graph.Indices
import EvidenceTree.Proofs.Graph.PostOrder
import EvidenceTree.Proofs.Graph.Preorders
import EvidenceTree.Proofs.Graph.Walks
import EvidenceTree.Proofs.Json.Numerals
import EvidenceTree.Proofs.Json.Parts
import EvidenceTree.Proofs.Json.RoundTrips
import EvidenceTree.Proofs.Json.Scaling
import EvidenceTree.Proofs.Json.Skipping
import EvidenceTree.Proofs.Json.Spellings
import EvidenceTree.Proofs.Live.Histories
import EvidenceTree.Proofs.Resolution.Extent
import EvidenceTree.Proofs.Resolution.Inheritance
import EvidenceTree.Proofs.Resolution.LaterChildren
import EvidenceTree.Proofs.Resolution.Lookups
import EvidenceTree.Proofs.Resolution.NumbersAsTexts
import EvidenceTree.Proofs.Resolution.Policy
import EvidenceTree.Proofs.Resolution.Relaxation
import EvidenceTree.Proofs.Resolution.Simulation
import EvidenceTree.Proofs.Settings.Documents
import EvidenceTree.Proofs.Settings.Expansion
import EvidenceTree.Proofs.Settings.Layers
import EvidenceTree.Proofs.Settings.Variables
import EvidenceTree.Proofs.Text.Lines
import EvidenceTree.Proofs.Text.Symbols
import EvidenceTree.Proofs.Text.Trimming
import EvidenceTree.Proofs.Toml.Strings
import EvidenceTree.Proofs.Tree.Embeddings
import EvidenceTree.Proofs.Tree.Equality
import EvidenceTree.Proofs.Tree.Indices
import EvidenceTree.Proofs.Tree.Labels
import EvidenceTree.Proofs.Tree.Literals
import EvidenceTree.Proofs.Tree.OutlineForm
import EvidenceTree.Proofs.Tree.OutlineFrames
import EvidenceTree.Proofs.Tree.OutlineLines
import EvidenceTree.Proofs.Tree.Outlines
import EvidenceTree.Proofs.Tree.Queries
import EvidenceTree.Proofs.Tree.RangeTexts
import EvidenceTree.Proofs.Tree.Ranges
import EvidenceTree.Resolution.Basic
import EvidenceTree.Resolution.Resolve
import EvidenceTree.Settings.Basic
import EvidenceTree.Settings.Document
import EvidenceTree.Settings.Environment
import EvidenceTree.Settings.Expansion
import EvidenceTree.Settings.Load
import EvidenceTree.Settings.Template
import EvidenceTree.Settings.Variables
import EvidenceTree.Text.Alphanumeric
import EvidenceTree.Text.Blank
import EvidenceTree.Text.CharSet
import EvidenceTree.Text.Hex
import EvidenceTree.Text.Lowercase
import EvidenceTree.Text.Printable
import EvidenceTree.Text.Quoted
import EvidenceTree.Text.Read
import EvidenceTree.Text.Symbol
import EvidenceTree.Toml.Basic
import EvidenceTree.Toml.Printer
import EvidenceTree.Toml.Reader
import EvidenceTree.Toml.Scalars
import EvidenceTree.Toml.Strings
import EvidenceTree.Toml.Table
import EvidenceTree.Tree.Basic
import EvidenceTree.Tree.Label
import EvidenceTree.Tree.Node
import EvidenceTree.Tree.Outline
import EvidenceTree.Main
