import LayeredFlags.Command.Arguments
import LayeredFlags.Command.Basic
import LayeredFlags.Command.Grammar
import LayeredFlags.Command.Usage
import LayeredFlags.Configuration
import LayeredFlags.Decimal.Binary64
import LayeredFlags.Decimal.Shortest
import LayeredFlags.Digest.Sha256
import LayeredFlags.Distinct
import LayeredFlags.Files.System
import LayeredFlags.Files.Path
import LayeredFlags.Files.Tree
import LayeredFlags.Flag.Basic
import LayeredFlags.Flag.Error
import LayeredFlags.Flag.Name
import LayeredFlags.Gate
import LayeredFlags.Json.Basic
import LayeredFlags.Json.Canonical
import LayeredFlags.Json.Codec
import LayeredFlags.Json.Printer
import LayeredFlags.Json.Reader
import LayeredFlags.JsonForm.Flags
import LayeredFlags.Layer
import LayeredFlags.LayerSet
import LayeredFlags.LayerText.Comment
import LayeredFlags.LayerText.Directive
import LayeredFlags.LayerText.Document
import LayeredFlags.LayerText.Error
import LayeredFlags.Main
import LayeredFlags.Output.Header
import LayeredFlags.Output.Rendering
import LayeredFlags.Output.Report
import LayeredFlags.Proofs.Construction
import LayeredFlags.Proofs.Header.Annotation
import LayeredFlags.Proofs.Header.Plain
import LayeredFlags.Proofs.Header.Regeneration
import LayeredFlags.Proofs.Header.Writable
import LayeredFlags.Proofs.Header.WrittenLine
import LayeredFlags.Proofs.LayerText.Blanking
import LayeredFlags.Proofs.LayerText.Faults
import LayeredFlags.Proofs.LayerText.FirstFault
import LayeredFlags.Proofs.LayerText.Joining
import LayeredFlags.Proofs.LayerText.Reading
import LayeredFlags.Proofs.LayerText.Says
import LayeredFlags.Proofs.LayerText.Stripping
import LayeredFlags.Proofs.LayerText.Writable
import LayeredFlags.Proofs.Lookup
import LayeredFlags.Proofs.Outcome
import LayeredFlags.Proofs.Resolution.Layer
import LayeredFlags.Proofs.Resolution.Precedence
import LayeredFlags.Proofs.Validation.Breach
import LayeredFlags.Proofs.Validation.Gate
import LayeredFlags.Proofs.Validation.Report
import LayeredFlags.Proofs.Validation.Verdict
import LayeredFlags.Registry
import LayeredFlags.Stack.Catalog
import LayeredFlags.Stack.Error
import LayeredFlags.Stack.LayerEntry
import LayeredFlags.Stack.LayerSource
import LayeredFlags.Stack.Loading
import LayeredFlags.Stack.Manifest
import LayeredFlags.Stack.Resolution
import LayeredFlags.Text.Blank
import LayeredFlags.Text.Lines
import LayeredFlags.Text.Hex
import LayeredFlags.Text.Instant
import LayeredFlags.Text.Integer
import LayeredFlags.Text.Printable
import LayeredFlags.Text.Utf8
import LayeredFlags.Toml.Document
import LayeredFlags.Toml.Literal
import LayeredFlags.Toml.Record
import LayeredFlags.Toml.Tree
import LayeredFlags.Validation
import LayeredFlags.Violation
import LayeredFlags.Proofs.Repeats
import LayeredFlags.Proofs.Resolution.Reordering
import LayeredFlags.Proofs.Stack.Approval
import LayeredFlags.Proofs.Stack.InputErrors
import LayeredFlags.Proofs.Command.Agreement
import LayeredFlags.Proofs.Command.Saving
import LayeredFlags.Proofs.Command.Snapshot
import LayeredFlags.Proofs.Command.StackArguments
import LayeredFlags.Json.Grammar
import LayeredFlags.Proofs.Json.Reading
import LayeredFlags.Proofs.Json.Writing
import LayeredFlags.Json.Fields
import LayeredFlags.JsonForm.Contents
import LayeredFlags.Proofs.Json.Fields
import LayeredFlags.Proofs.JsonForm.Contents
import LayeredFlags.Proofs.Output.Fingerprint
import LayeredFlags.Proofs.Output.Faithful
import LayeredFlags.Proofs.Command.Parsing
import LayeredFlags.Proofs.Stack.Provenance
import LayeredFlags.Proofs.JsonForm.RoundTrip
import LayeredFlags.Proofs.Header.Declarations
import LayeredFlags.Proofs.Resolution.Attribution
import LayeredFlags.Proofs.Resolution.Extension
import LayeredFlags.Proofs.FirstError
import LayeredFlags.Proofs.Resolution.Refusal
import LayeredFlags.Proofs.Arrangement
import LayeredFlags.Proofs.LayerText.Grammar
import LayeredFlags.Proofs.Stack.Admission
import LayeredFlags.Proofs.Condensation
import LayeredFlags.Proofs.Stack.Identifiers
import LayeredFlags.Proofs.Text.ByteLines
import LayeredFlags.Proofs.Stack.LineNumbers
import LayeredFlags.Proofs.Stack.EntryText
import LayeredFlags.Proofs.LayerText.CommentFree
