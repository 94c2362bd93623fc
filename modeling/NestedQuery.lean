import NestedQuery.Text.Blank
import NestedQuery.Text.Hex
import NestedQuery.Text.LowerCase
import NestedQuery.Text.Visible
import NestedQuery.Double.Basic
import NestedQuery.Double.Shortest
import NestedQuery.Json.Basic
import NestedQuery.Json.Token
import NestedQuery.Json.Parser
import NestedQuery.Json.Printer
import NestedQuery.Json.Decode
import NestedQuery.Yaml.Basic
import NestedQuery.Yaml.Spot
import NestedQuery.Yaml.Scalar
import NestedQuery.Yaml.Block
import NestedQuery.Yaml.Property
import NestedQuery.Yaml.Token
import NestedQuery.Yaml.Document
import NestedQuery.Location
import NestedQuery.Identifier
import NestedQuery.Keyword
import NestedQuery.Problem
import NestedQuery.Reference
import NestedQuery.Scope.Tree
import NestedQuery.Scope.Recorder
import NestedQuery.Syntax.Basic
import NestedQuery.Syntax.Naming
import NestedQuery.Syntax.Compose
import NestedQuery.Plan.Basic
import NestedQuery.Plan.Vars
import NestedQuery.Plan.MapVars
import NestedQuery.Plan.Strategies
import NestedQuery.Logical.Plan
import NestedQuery.Logical.Builder
import NestedQuery.Logical.Query
import NestedQuery.Logical.Mutation
import NestedQuery.Logical.Build
import NestedQuery.Resolved.Plan
import NestedQuery.Resolved.Resolve
import NestedQuery.Resolved.Expectation
import NestedQuery.Physical.Lower
import NestedQuery.Catalog.Basic
import NestedQuery.Catalog.Survey
import NestedQuery.Config
import NestedQuery.Compilation
import NestedQuery.Exchange.Names
import NestedQuery.Exchange.Reference
import NestedQuery.Exchange.Syntax
import NestedQuery.Exchange.Plan
import NestedQuery.Exchange.Compilation
import NestedQuery.FileText
import NestedQuery.Folder
import NestedQuery.Catalog.Document
import NestedQuery.Explain.Arguments
import NestedQuery.Explain.Report
import NestedQuery.Sample.Statements
import NestedQuery.Sample.Catalogs
import NestedQuery.Main
import NestedQuery.Proofs.Lexical.Environment
import NestedQuery.Proofs.Plan.Declarations
import NestedQuery.Proofs.Plan.Replacement
import NestedQuery.Proofs.Syntax.Outline
import NestedQuery.Proofs.Scope.Sight
import NestedQuery.Proofs.Logical.Recording
import NestedQuery.Proofs.Logical.Query
import NestedQuery.Proofs.Logical.Batch
import NestedQuery.Proofs.Resolved.Pointwise
import NestedQuery.Proofs.Logical.Built
import NestedQuery.Proofs.Resolved.Scoping
import NestedQuery.Proofs.Compilation.Strict
import NestedQuery.Proofs.Resolved.Generated
import NestedQuery.Proofs.Plan.Shape
import NestedQuery.Proofs.Resolved.Outcome
import NestedQuery.Proofs.Logical.References
import NestedQuery.Proofs.Catalog.Registration
import NestedQuery.Proofs.Compilation.Growth
import NestedQuery.Proofs.Compilation.Undefined
import NestedQuery.Proofs.Plan.Agreement
import NestedQuery.Proofs.Resolved.Questions
import NestedQuery.Proofs.Plan.Strategies
import NestedQuery.Proofs.Compilation.Grounded
import NestedQuery.Proofs.Compilation.Reported
import NestedQuery.Proofs.Plan.Embedding
import NestedQuery.Proofs.Logical.Embedding
import NestedQuery.Proofs.Syntax.Declared
import NestedQuery.Proofs.Logical.Repetition
import NestedQuery.Proofs.Syntax.Runs
import NestedQuery.Proofs.Logical.Mutations
import NestedQuery.Proofs.Exchange.Reference
import NestedQuery.Proofs.Exchange.Syntax
import NestedQuery.Proofs.Exchange.Plan
import NestedQuery.Proofs.Exchange.RoundTrip
import NestedQuery.Proofs.Logical.Course
import NestedQuery.Proofs.Scope.Layout
import NestedQuery.Proofs.Logical.Completeness
import NestedQuery.Proofs.Logical.Candidates
import NestedQuery.Proofs.Resolved.Spelling
import NestedQuery.Proofs.Syntax.Aliases
import NestedQuery.Proofs.Plan.Redeclaration
import NestedQuery.Proofs.Logical.Uncased
import NestedQuery.Proofs.Compilation.Uncased
import NestedQuery.Proofs.Plan.Traversal
import NestedQuery.Proofs.Scope.Consistency
import NestedQuery.Proofs.Catalog.History
import NestedQuery.Proofs.Compilation.Targets
import NestedQuery.Proofs.Logical.Leftmost
