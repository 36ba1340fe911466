import SchemaGuards.Check.Basic
import SchemaGuards.Command.Run
import SchemaGuards.Declaration.Printer
import SchemaGuards.Json.Reader
import SchemaGuards.Main
import SchemaGuards.Module.Source
import SchemaGuards.Schema.Render
import SchemaGuards.Proofs.Check.Acceptance
import SchemaGuards.Proofs.Check.Causes
import SchemaGuards.Proofs.Check.Termination
import SchemaGuards.Proofs.Schema.Lowering
import SchemaGuards.Proofs.Module.Compile
import SchemaGuards.Proofs.Declaration.Meaning
import SchemaGuards.Proofs.Schema.Induction
import SchemaGuards.Proofs.Schema.References
import SchemaGuards.Proofs.Module.Order
import SchemaGuards.Proofs.Check.Renaming
import SchemaGuards.Proofs.Module.Suffix
import SchemaGuards.Proofs.Check.Failures
import SchemaGuards.Proofs.Check.Walk
import SchemaGuards.Proofs.Json.Quoted
import SchemaGuards.Proofs.Text.Reading
import SchemaGuards.Proofs.Schema.Reading
import SchemaGuards.Proofs.Module.Reading
import SchemaGuards.Proofs.Command.Files
import SchemaGuards.Proofs.Command.Frame
import SchemaGuards.Proofs.Json.Layout
import SchemaGuards.Proofs.Module.Record
import SchemaGuards.Proofs.Check.Inlining
import SchemaGuards.Proofs.Syntax.Stream
import SchemaGuards.Proofs.Syntax.Tokens
import SchemaGuards.Proofs.Syntax.Strings
import SchemaGuards.Proofs.Syntax.Numbers
import SchemaGuards.Proofs.Syntax.Legible
import SchemaGuards.Proofs.Syntax.Primary
import SchemaGuards.Proofs.Syntax.Properties
import SchemaGuards.Proofs.Syntax.Patterns
import SchemaGuards.Proofs.Syntax.Types
import SchemaGuards.Proofs.Syntax.Alias
import SchemaGuards.Proofs.Decimal.Rounding
import SchemaGuards.Proofs.Decimal.Shortest
import SchemaGuards.Proofs.Decimal.Text
import SchemaGuards.Proofs.Syntax.Positional
import SchemaGuards.Proofs.Syntax.Returns
import SchemaGuards.Proofs.Syntax.WellFormed
import SchemaGuards.Proofs.Syntax.Declared
import SchemaGuards.Proofs.Declaration.Equality
import SchemaGuards.Proofs.Syntax.ReadBack
import SchemaGuards.Proofs.Schema.Offenders
import SchemaGuards.Proofs.Module.Extension
import SchemaGuards.Proofs.Schema.Relaxing
import SchemaGuards.Proofs.Check.Relaxing
import SchemaGuards.Proofs.Json.Reordering
import SchemaGuards.Proofs.Declaration.Reordering
import SchemaGuards.Proofs.Schema.Dropping
import SchemaGuards.Proofs.Schema.Flags
import SchemaGuards.Proofs.Check.Overriding
import SchemaGuards.Proofs.Text.Layout
import SchemaGuards.Proofs.Schema.Layout
import SchemaGuards.Proofs.Json.Paths
import SchemaGuards.Proofs.Module.Sequence
import SchemaGuards.Proofs.Check.Labels
import SchemaGuards.Proofs.Check.Positions
import SchemaGuards.Proofs.Module.Names
import SchemaGuards.Proofs.Module.ImportPath
import SchemaGuards.Proofs.Check.Numerals
