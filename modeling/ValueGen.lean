import ValueGen.CommandLine.Arguments
import ValueGen.CommandLine.Run
import ValueGen.Config.Basic
import ValueGen.Config.Json
import ValueGen.Config.Toml
import ValueGen.Declaration.Basic
import ValueGen.Declaration.Json
import ValueGen.Disk.Access
import ValueGen.Disk.Basic
import ValueGen.Emission.Emitter
import ValueGen.FieldName
import ValueGen.GeneratedClass
import ValueGen.GeneratedName
import ValueGen.GenerationError
import ValueGen.Json.Basic
import ValueGen.Json.Decode
import ValueGen.Json.Printer
import ValueGen.Json.Reader
import ValueGen.Json.Token
import ValueGen.Main
import ValueGen.Manifest
import ValueGen.Naming.Cache
import ValueGen.Naming.Resolver
import ValueGen.Naming.Rule
import ValueGen.Path
import ValueGen.Proofs.Config
import ValueGen.Proofs.Disk.Around
import ValueGen.Proofs.Disk.Flat
import ValueGen.Proofs.Disk.Inside
import ValueGen.Proofs.Disk.Making
import ValueGen.Proofs.Disk.View
import ValueGen.Proofs.Disk.Writing
import ValueGen.Proofs.Emission
import ValueGen.Proofs.FieldName
import ValueGen.Proofs.Json.Arranging
import ValueGen.Proofs.Json.Fields
import ValueGen.Proofs.Json.Literals
import ValueGen.Proofs.Json.Reading
import ValueGen.Proofs.Manifest
import ValueGen.Proofs.Naming.ClosedForm
import ValueGen.Proofs.Naming.Interleaving
import ValueGen.Proofs.Naming.Qualified
import ValueGen.Proofs.Naming.Remembering
import ValueGen.Proofs.Naming.Search
import ValueGen.Proofs.Naming.Toggling
import ValueGen.Proofs.Outcomes
import ValueGen.Proofs.Path
import ValueGen.Proofs.Reordering
import ValueGen.Proofs.Repository.Ancestry
import ValueGen.Proofs.Repository.Following
import ValueGen.Proofs.Repository.Index
import ValueGen.Proofs.Repository.MarkerSearch
import ValueGen.Proofs.Repository.Marking
import ValueGen.Proofs.Repository.Reaching
import ValueGen.Proofs.Repository.Reordering
import ValueGen.Proofs.Rewriting
import ValueGen.Proofs.Rewriting.Hygiene
import ValueGen.Proofs.Rewriting.Shape
import ValueGen.Proofs.Round.Accounting
import ValueGen.Proofs.Round.AnyOrder
import ValueGen.Proofs.Round.Confinement
import ValueGen.Proofs.Round.Coverage
import ValueGen.Proofs.Round.DepthFirst
import ValueGen.Proofs.Round.Dispatch
import ValueGen.Proofs.Round.Distinctness
import ValueGen.Proofs.Round.Embedding
import ValueGen.Proofs.Round.Independence
import ValueGen.Proofs.Round.Isolation
import ValueGen.Proofs.Round.Outcome
import ValueGen.Proofs.Round.References
import ValueGen.Proofs.Round.Reordering
import ValueGen.Proofs.Round.Shadowing
import ValueGen.Proofs.Round.UnitPaths
import ValueGen.Proofs.Source.Constructor
import ValueGen.Proofs.Source.Equality
import ValueGen.Proofs.Source.Layout
import ValueGen.Proofs.Source.Literals
import ValueGen.Proofs.Source.Methods
import ValueGen.Proofs.Source.Writer
import ValueGen.Proofs.Synthesis
import ValueGen.Proofs.Synthesis.Failing
import ValueGen.Proofs.Synthesis.FieldNames
import ValueGen.Proofs.Synthesis.Mirroring
import ValueGen.Proofs.Synthesis.Recursion
import ValueGen.Proofs.TypeExpr.Canonical
import ValueGen.Proofs.TypeExpr.Decoding
import ValueGen.Proofs.TypeExpr.Grammar
import ValueGen.Proofs.TypeExpr.Parsing
import ValueGen.Proofs.TypeExpr.Placing
import ValueGen.Proofs.TypeExpr.Refusing
import ValueGen.Proofs.TypeExpr.Spelling
import ValueGen.Proofs.TypeExpr.Splitting
import ValueGen.Repository.Basic
import ValueGen.Repository.Index
import ValueGen.Repository.Marking
import ValueGen.Repository.Nesting
import ValueGen.Repository.Visiting
import ValueGen.Rewrite
import ValueGen.Round.Dispatch
import ValueGen.Round.Plan
import ValueGen.Round.Report
import ValueGen.Source.Lines
import ValueGen.Source.Render
import ValueGen.Text.Alphabetic
import ValueGen.Text.Character
import ValueGen.Text.Lowercase
import ValueGen.Text.Uppercase
import ValueGen.Toml.Document
import ValueGen.Toml.Quoted
import ValueGen.Toml.Scalar
import ValueGen.Toml.Table
import ValueGen.TypeExpr.Basic
import ValueGen.TypeExpr.Json
import ValueGen.TypeExpr.Parser
import ValueGen.TypeExpr.Token
import ValueGen.UniversalTime
