import TypeRegistry.Address
import TypeRegistry.Address.Authority
import TypeRegistry.Cast
import TypeRegistry.CommandLine.Arguments
import TypeRegistry.CommandLine.Environment
import TypeRegistry.CommandLine.Run
import TypeRegistry.Dictionary
import TypeRegistry.Entity.Basic
import TypeRegistry.Entity.Extraction
import TypeRegistry.Entity.References
import TypeRegistry.Graph
import TypeRegistry.Http
import TypeRegistry.Identifier.Basic
import TypeRegistry.Identifier.Parser
import TypeRegistry.Json.Basic
import TypeRegistry.Json.Equality
import TypeRegistry.Json.Literal
import TypeRegistry.Json.Order
import TypeRegistry.Json.Path
import TypeRegistry.Json.Reader
import TypeRegistry.Json.Writer
import TypeRegistry.Main
import TypeRegistry.Number.Double
import TypeRegistry.Number.Fixed
import TypeRegistry.Number.Multiple
import TypeRegistry.Number.Shortest
import TypeRegistry.Pattern
import TypeRegistry.Proofs.Cast.Conformance
import TypeRegistry.Proofs.Cast.Idempotence
import TypeRegistry.Proofs.Cast.Level
import TypeRegistry.Proofs.Cast.Locations
import TypeRegistry.Proofs.Cast.Members
import TypeRegistry.Proofs.Cast.OwnSchema
import TypeRegistry.Proofs.Cast.Preconditions
import TypeRegistry.Proofs.Cast.Return
import TypeRegistry.Proofs.Entity.Governing
import TypeRegistry.Proofs.Entity.NormalForm
import TypeRegistry.Proofs.Entity.ReferencePaths
import TypeRegistry.Proofs.Graph.Children
import TypeRegistry.Proofs.Graph.Chronicle
import TypeRegistry.Proofs.Graph.Completeness
import TypeRegistry.Proofs.Graph.Depth
import TypeRegistry.Proofs.Graph.Termination
import TypeRegistry.Proofs.Identifier.Beginning
import TypeRegistry.Proofs.Identifier.Front
import TypeRegistry.Proofs.Identifier.Grammar
import TypeRegistry.Proofs.Identifier.Language
import TypeRegistry.Proofs.Identifier.Places
import TypeRegistry.Proofs.Identifier.Spelling
import TypeRegistry.Proofs.Json.DocumentText
import TypeRegistry.Proofs.Json.Equality
import TypeRegistry.Proofs.Json.Locations
import TypeRegistry.Proofs.Json.Ordered
import TypeRegistry.Proofs.Json.Parts
import TypeRegistry.Proofs.Json.Reading
import TypeRegistry.Proofs.Json.ScalarText
import TypeRegistry.Proofs.Json.StringText
import TypeRegistry.Proofs.Lookup
import TypeRegistry.Proofs.Number.Canonical
import TypeRegistry.Proofs.Number.Exactness
import TypeRegistry.Proofs.Number.Interval
import TypeRegistry.Proofs.Number.Order
import TypeRegistry.Proofs.Number.Spelling
import TypeRegistry.Proofs.Pattern.Language
import TypeRegistry.Proofs.Pattern.Prefix
import TypeRegistry.Proofs.Pattern.Preorder
import TypeRegistry.Proofs.Pattern.Reading
import TypeRegistry.Proofs.Query.Filters
import TypeRegistry.Proofs.Query.Results
import TypeRegistry.Proofs.Registry.Addition
import TypeRegistry.Proofs.Registry.Inquiry
import TypeRegistry.Proofs.Registry.Session
import TypeRegistry.Proofs.Relaxation.Document
import TypeRegistry.Proofs.Relaxation.Evaluated
import TypeRegistry.Proofs.Relaxation.Evaluation
import TypeRegistry.Proofs.Relaxation.Following
import TypeRegistry.Proofs.Relaxation.Form
import TypeRegistry.Proofs.Relaxation.Keywords
import TypeRegistry.Proofs.Relaxation.Library
import TypeRegistry.Proofs.Relaxation.Resolution
import TypeRegistry.Proofs.Relaxation.Weakening
import TypeRegistry.Proofs.Schema.Acceptance
import TypeRegistry.Proofs.Schema.Clean
import TypeRegistry.Proofs.Schema.Comparison
import TypeRegistry.Proofs.Schema.Composition
import TypeRegistry.Proofs.Schema.ConstraintDescent
import TypeRegistry.Proofs.Schema.ConstraintForm
import TypeRegistry.Proofs.Schema.ConstraintReach
import TypeRegistry.Proofs.Schema.Constraints
import TypeRegistry.Proofs.Schema.Difference
import TypeRegistry.Proofs.Schema.DifferenceLevels
import TypeRegistry.Proofs.Schema.Duality
import TypeRegistry.Proofs.Schema.Enumerations
import TypeRegistry.Proofs.Schema.Flattening
import TypeRegistry.Proofs.Schema.Formed
import TypeRegistry.Proofs.Schema.FullCompatibility
import TypeRegistry.Proofs.Schema.IntegerBounds
import TypeRegistry.Proofs.Schema.Meaning
import TypeRegistry.Proofs.Schema.Pointers
import TypeRegistry.Proofs.Schema.ReferenceForm
import TypeRegistry.Proofs.Schema.Regrouping
import TypeRegistry.Proofs.Schema.RestatedVerdicts
import TypeRegistry.Proofs.Schema.Restating
import TypeRegistry.Proofs.Schema.SelfComparison
import TypeRegistry.Proofs.Schema.Soundness
import TypeRegistry.Proofs.Schema.Widening
import TypeRegistry.Proofs.Selector.ReadBack
import TypeRegistry.Proofs.Sorting
import TypeRegistry.Proofs.Source.Catalogue
import TypeRegistry.Proofs.Source.Requests
import TypeRegistry.Proofs.Source.Walk
import TypeRegistry.Proofs.Store.Growth
import TypeRegistry.Proofs.Store.Layers
import TypeRegistry.Proofs.Store.References
import TypeRegistry.Proofs.Store.Run
import TypeRegistry.Proofs.Store.View
import TypeRegistry.Proofs.Text.Cutting
import TypeRegistry.Proofs.Text.Trimming
import TypeRegistry.Query
import TypeRegistry.Query.Results
import TypeRegistry.Regex.Basic
import TypeRegistry.Regex.CharClass
import TypeRegistry.Regex.Escape
import TypeRegistry.Regex.Options
import TypeRegistry.Regex.Progress
import TypeRegistry.Regex.Reader
import TypeRegistry.Regex.Search
import TypeRegistry.Regex.Sign
import TypeRegistry.Registry.Basic
import TypeRegistry.Registry.Reply
import TypeRegistry.Registry.Request
import TypeRegistry.Schema.Applicator
import TypeRegistry.Schema.Assertion
import TypeRegistry.Schema.Breakdown
import TypeRegistry.Schema.Compatibility
import TypeRegistry.Schema.Dialect
import TypeRegistry.Schema.Difference
import TypeRegistry.Schema.Evaluation
import TypeRegistry.Schema.Finding
import TypeRegistry.Schema.Flat
import TypeRegistry.Schema.Form
import TypeRegistry.Schema.IdentifierConstraint
import TypeRegistry.Schema.Keyword
import TypeRegistry.Schema.Library
import TypeRegistry.Schema.Part
import TypeRegistry.Schema.ReferenceForm
import TypeRegistry.Schema.Registered
import TypeRegistry.Schema.Relax
import TypeRegistry.Schema.Report
import TypeRegistry.Schema.Resolution
import TypeRegistry.Schema.Standard
import TypeRegistry.Schema.Standard.Draft03
import TypeRegistry.Schema.Standard.Draft04
import TypeRegistry.Schema.Standard.Draft06
import TypeRegistry.Schema.Standard.Draft07
import TypeRegistry.Schema.Standard.Draft201909
import TypeRegistry.Schema.Standard.Draft202012
import TypeRegistry.Schema.Standard.Fragment
import TypeRegistry.Schema.Trace
import TypeRegistry.Schema.Unevaluated
import TypeRegistry.Schema.Validator
import TypeRegistry.Selector
import TypeRegistry.Source.Access
import TypeRegistry.Source.FileTree
import TypeRegistry.Source.Reader
import TypeRegistry.Store
import TypeRegistry.Text.Blank
import TypeRegistry.Text.CharacterName
import TypeRegistry.Text.CharacterName.Table
import TypeRegistry.Text.Digit
import TypeRegistry.Text.LowerCase
import TypeRegistry.Text.NameCharacter
import TypeRegistry.Text.Parameter
import TypeRegistry.Text.Percent
import TypeRegistry.Text.Printable
import TypeRegistry.Text.Quoted
import TypeRegistry.Text.Split
import TypeRegistry.Text.UpperCase
import TypeRegistry.Text.Word
import TypeRegistry.Uuid.Digest
import TypeRegistry.Uuid.Named
import TypeRegistry.Validation
