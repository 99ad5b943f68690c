import TransformerEngine.Compiler.Diagnostic
import TransformerEngine.Compiler.Host
import TransformerEngine.Compiler.HostSet
import TransformerEngine.Compiler.Options
import TransformerEngine.Compiler.OptionsText
import TransformerEngine.Compiler.Program
import TransformerEngine.Compiler.ScriptTarget
import TransformerEngine.Compiler.SourceFile
import TransformerEngine.Emit.Basic
import TransformerEngine.Emit.OutputName
import TransformerEngine.Emit.Sink
import TransformerEngine.Emit.Transformer
import TransformerEngine.Emit.Transpile
import TransformerEngine.FileTree
import TransformerEngine.Json.Basic
import TransformerEngine.Json.Issue
import TransformerEngine.Json.Printer
import TransformerEngine.Json.Reader
import TransformerEngine.Json.Skip
import TransformerEngine.Lineage.Basic
import TransformerEngine.Lineage.Run
import TransformerEngine.Lineage.Script
import TransformerEngine.Number.Binary64
import TransformerEngine.Number.Decimal
import TransformerEngine.Path.Basic
import TransformerEngine.Plugin.Descriptor
import TransformerEngine.Plugin.Entry
import TransformerEngine.Plugin.Error
import TransformerEngine.Plugin.Export
import TransformerEngine.Plugin.Grouping
import TransformerEngine.Plugin.Kind
import TransformerEngine.Plugin.Loading
import TransformerEngine.Proofs.Emit.Likeness
import TransformerEngine.Proofs.Emit.Watching
import TransformerEngine.Proofs.Emit.Trace
import TransformerEngine.Proofs.Lineage.Entries
import TransformerEngine.Proofs.Lineage.Steps
import TransformerEngine.Session.Basic
import TransformerEngine.Session.Config
import TransformerEngine.Session.Log
import TransformerEngine.Table
import TransformerEngine.Text.Blank
import TransformerEngine.Text.CaseTable
import TransformerEngine.Text.Ending
import TransformerEngine.Text.EscapeTable
import TransformerEngine.Text.Lowercase
import TransformerEngine.Text.Quoted
import TransformerEngine.Text.Range
import TransformerEngine.Proofs.Lineage.Growth
import TransformerEngine.Proofs.Lineage.Journal
import TransformerEngine.Proofs.Lineage.Reapplication
import TransformerEngine.Proofs.Lineage.Line
import TransformerEngine.Proofs.Lineage.Once
import TransformerEngine.Proofs.Lineage.Reports
import TransformerEngine.Proofs.Lineage.Stack
import TransformerEngine.Proofs.Lineage.Termination
import TransformerEngine.Proofs.Lineage.Course
import TransformerEngine.Proofs.Plugin.Entry
import TransformerEngine.Proofs.Plugin.Loading
import TransformerEngine.Proofs.Session.Resolution
import TransformerEngine.Proofs.Lineage.Kept
import TransformerEngine.Proofs.Plugin.Grouping
import TransformerEngine.Proofs.Session.Emission
import TransformerEngine.Proofs.Lineage.Likeness
import TransformerEngine.Proofs.Session.Isolation
import TransformerEngine.Proofs.Session.Diagnostics
import TransformerEngine.Proofs.Session.Extension
import TransformerEngine.Proofs.Plugin.Transparency
import TransformerEngine.Proofs.Lineage.FailedInvocation
import TransformerEngine.Proofs.Lineage.Origin
import TransformerEngine.Proofs.Lineage.Forgetting
import TransformerEngine.Proofs.Compiler.Creation
import TransformerEngine.Proofs.Compiler.Hosts
import TransformerEngine.Proofs.Lineage.Injection
import TransformerEngine.Proofs.Emit.Guarantees
import TransformerEngine.Proofs.Path.Location
import TransformerEngine.Proofs.Emit.FileByFile
import TransformerEngine.Proofs.Emit.Separation
import TransformerEngine.Proofs.Emit.OutputNames
import TransformerEngine.Proofs.Path.Canonical
import TransformerEngine.Proofs.Plugin.Specifier
import TransformerEngine.Proofs.Plugin.Meaning
import TransformerEngine.Proofs.Plugin.Reading
import TransformerEngine.Proofs.Plugin.Flattening
import TransformerEngine.Proofs.Plugin.Nulls
import TransformerEngine.Proofs.Compiler.MessageLines
import TransformerEngine.Proofs.Lineage.Surfacing
import TransformerEngine.Proofs.Session.Transpiling
import TransformerEngine.Proofs.Compiler.OptionsRoundTrip
import TransformerEngine.Proofs.Compiler.Layers
import TransformerEngine.Proofs.Compiler.Roots
import TransformerEngine.Proofs.Lineage.Keeping
import TransformerEngine.Proofs.Lineage.Provenance
import TransformerEngine.Proofs.Lineage.HandingOn
