import DartBindings.Command.Arguments
import DartBindings.Command.Run
import DartBindings.Config.Basic
import DartBindings.Config.Document
import DartBindings.Config.Problem
import DartBindings.Config.Reader
import DartBindings.Decimal.Shortest
import DartBindings.Declaration
import DartBindings.Diagnostic.Basic
import DartBindings.Diagnostic.Excerpt
import DartBindings.Emission.Hoisting
import DartBindings.Emission.Unit
import DartBindings.Extraction.Declaration
import DartBindings.Extraction.Doc
import DartBindings.Extraction.Fault
import DartBindings.Extraction.Library
import DartBindings.Extraction.Member
import DartBindings.Extraction.TypeReader
import DartBindings.Files.Access
import DartBindings.Files.Directory
import DartBindings.Files.Path
import DartBindings.Heritage.Ancestor
import DartBindings.Heritage.Binding
import DartBindings.Heritage.Order
import DartBindings.Heritage.Reference
import DartBindings.Heritage.Unvisited
import DartBindings.Json.Number
import DartBindings.Json.Token
import DartBindings.Json.Value
import DartBindings.Library.Basic
import DartBindings.Library.Document
import DartBindings.Main
import DartBindings.Naming
import DartBindings.Normalization.Accessor
import DartBindings.Normalization.Constructor
import DartBindings.Normalization.Library
import DartBindings.Normalization.Override
import DartBindings.Normalization.Step
import DartBindings.Pipeline
import DartBindings.Replacement.Mapper
import DartBindings.Replacement.Pattern
import DartBindings.Replacement.Rule
import DartBindings.Replacement.Template
import DartBindings.Scope
import DartBindings.Source
import DartBindings.Syntax.Node
import DartBindings.Syntax.Outline
import DartBindings.Syntax.Rows
import DartBindings.Table
import DartBindings.Text.Blank
import DartBindings.Text.CaseTable
import DartBindings.Text.Casing
import DartBindings.Text.Concealed
import DartBindings.Text.Line
import DartBindings.Text.Quoted
import DartBindings.Text.Slice
import DartBindings.Text.Visible
import DartBindings.Types.Basic
import DartBindings.Types.Expression
import DartBindings.Proofs.Config.Decoding
import DartBindings.Proofs.Config.RoundTrip
import DartBindings.Proofs.Diagnostic.HighlightedRange
import DartBindings.Proofs.Emission.ClassHeader
import DartBindings.Proofs.Emission.DeclaredNames
import DartBindings.Proofs.Emission.HoistedNames
import DartBindings.Proofs.Emission.HoistedShapes
import DartBindings.Proofs.Emission.Occurrence
import DartBindings.Proofs.Emission.ParameterList
import DartBindings.Proofs.Emission.Refusal
import DartBindings.Proofs.Emission.RepeatedMembers
import DartBindings.Proofs.Emission.SelfType
import DartBindings.Proofs.Emission.Site
import DartBindings.Proofs.Emission.UnitText
import DartBindings.Proofs.Emission.UnwantedMembers
import DartBindings.Proofs.Emission.WholePlace
import DartBindings.Proofs.Extraction.Accessors
import DartBindings.Proofs.Extraction.Arrays
import DartBindings.Proofs.Extraction.ClassNames
import DartBindings.Proofs.Extraction.CommentBody
import DartBindings.Proofs.Extraction.Comments
import DartBindings.Proofs.Extraction.DocComments
import DartBindings.Proofs.Extraction.Faults
import DartBindings.Proofs.Extraction.HiddenNames
import DartBindings.Proofs.Extraction.Overloads
import DartBindings.Proofs.Extraction.Selection
import DartBindings.Proofs.Extraction.SyntaxErrors
import DartBindings.Proofs.Files.Directory
import DartBindings.Proofs.Heritage.Composition
import DartBindings.Proofs.Heritage.Nearest
import DartBindings.Proofs.Heritage.Path
import DartBindings.Proofs.Heritage.Reachability
import DartBindings.Proofs.Heritage.Schedule
import DartBindings.Proofs.Heritage.Walk
import DartBindings.Proofs.Json.Tokens
import DartBindings.Proofs.Library.HiddenNames
import DartBindings.Proofs.Library.Lookup
import DartBindings.Proofs.Library.Reordering
import DartBindings.Proofs.Lists
import DartBindings.Proofs.Naming
import DartBindings.Proofs.Normalization.AccessorCompleteness
import DartBindings.Proofs.Normalization.AccessorMinimality
import DartBindings.Proofs.Normalization.Conservation
import DartBindings.Proofs.Normalization.ConstructorInheritance
import DartBindings.Proofs.Normalization.DeclarationOrder
import DartBindings.Proofs.Normalization.Demand
import DartBindings.Proofs.Normalization.Growth
import DartBindings.Proofs.Normalization.HiddenNames
import DartBindings.Proofs.Normalization.Locality
import DartBindings.Proofs.Normalization.MemberNames
import DartBindings.Proofs.Normalization.OverrideIdentity
import DartBindings.Proofs.Normalization.Pass
import DartBindings.Proofs.Pipeline.Documentation
import DartBindings.Proofs.Pipeline.Outcome
import DartBindings.Proofs.Pipeline.UnitFiles
import DartBindings.Proofs.Replacement.FilledTemplate
import DartBindings.Proofs.Replacement.Matching
import DartBindings.Proofs.Replacement.Reach
import DartBindings.Proofs.Replacement.UnboundTokens
import DartBindings.Proofs.Replacement.Unwrapping
import DartBindings.Proofs.Syntax.Comments
import DartBindings.Proofs.Syntax.Outline
import DartBindings.Proofs.Syntax.OutlineRow
import DartBindings.Proofs.Syntax.Place
import DartBindings.Proofs.Syntax.Sight
import DartBindings.Proofs.Table
import DartBindings.Proofs.Text.Capital
import DartBindings.Proofs.Text.Casing
import DartBindings.Proofs.Text.Line
import DartBindings.Proofs.Text.Quoted
import DartBindings.Proofs.Text.Trim
import DartBindings.Proofs.Types.Documentation
import DartBindings.Proofs.Types.LostMarks
import DartBindings.Proofs.Types.Respelling
import DartBindings.Proofs.Types.WrittenExpression
