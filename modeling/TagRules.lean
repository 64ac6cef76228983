import TagRules.Batch
import TagRules.Build
import TagRules.Capture
import TagRules.Catalog
import TagRules.Classification
import TagRules.Clause
import TagRules.Codec.Catalog
import TagRules.Codec.Definition
import TagRules.Codec.Feature
import TagRules.CommandLine.Arguments
import TagRules.CommandLine.Directory
import TagRules.CommandLine.Run
import TagRules.Config
import TagRules.Data.JsonPrinter
import TagRules.Data.JsonReader
import TagRules.Data.Record
import TagRules.Data.Toml.Document
import TagRules.Data.Toml.Reader
import TagRules.Data.Toml.Scalar
import TagRules.Data.Value
import TagRules.Definition
import TagRules.Digest.Sha256
import TagRules.Feature
import TagRules.Finding
import TagRules.Fingerprint
import TagRules.Guard
import TagRules.Main
import TagRules.Pattern
import TagRules.Pattern.Brackets
import TagRules.Pattern.Category
import TagRules.Pattern.CharSet
import TagRules.Pattern.Engine
import TagRules.Pattern.Escape
import TagRules.Pattern.Flags
import TagRules.Pattern.Folding
import TagRules.Pattern.Literal
import TagRules.Pattern.Program
import TagRules.Pattern.Property
import TagRules.Pattern.Reader
import TagRules.Pattern.Script
import TagRules.Pattern.Size
import TagRules.Pattern.Syntax
import TagRules.Report
import TagRules.Rule
import TagRules.Seamark.Catalog
import TagRules.Seamark.Marks
import TagRules.Seamark.Notices
import TagRules.Seamark.Query
import TagRules.Sorted.Collect
import TagRules.Sorted.Map
import TagRules.Sorted.Set
import TagRules.TagSet
import TagRules.Template
import TagRules.Test
import TagRules.Text.Blank
import TagRules.Text.Decimal
import TagRules.Text.Search
import TagRules.Traced
import TagRules.Proofs.Attempt
import TagRules.Proofs.CaptureHistory
import TagRules.Proofs.Guard
import TagRules.Proofs.Build
import TagRules.Proofs.Dispatch
import TagRules.Proofs.Visit
import TagRules.Proofs.Validation
import TagRules.Proofs.Reading
import TagRules.Proofs.Independence
import TagRules.Proofs.Appending
import TagRules.Proofs.DerivedGuard
import TagRules.Proofs.Relevance
import TagRules.Proofs.Registry
import TagRules.Proofs.Correspondence
import TagRules.Proofs.Check
import TagRules.Proofs.Counting
import TagRules.Proofs.Placeholder
import TagRules.Proofs.Rendering
import TagRules.Proofs.WritingBack
import TagRules.Proofs.RoundTrip
import TagRules.Proofs.Fingerprint
import TagRules.Proofs.Batch
import TagRules.Proofs.ByteOrder
import TagRules.Proofs.WordPattern
import TagRules.Proofs.SeamarkCatalog
import TagRules.Proofs.Exclusion
import TagRules.Proofs.LateralMarks
import TagRules.Proofs.NormalGuard
import TagRules.Proofs.LastValue
import TagRules.Proofs.ScopeLength
