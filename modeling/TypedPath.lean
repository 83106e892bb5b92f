import TypedPath.Config
import TypedPath.Env
import TypedPath.Eval.Access
import TypedPath.Eval.Error
import TypedPath.Eval.Evaluate
import TypedPath.Eval.Operate
import TypedPath.Eval.StoragePath
import TypedPath.Expr.Basic
import TypedPath.Expr.Form
import TypedPath.Expr.Literal
import TypedPath.Expr.Operator
import TypedPath.Expr.Tree
import TypedPath.Failure
import TypedPath.Json.Basic
import TypedPath.Json.Phrase
import TypedPath.Json.Reader
import TypedPath.Method.Registry
import TypedPath.Number.Binary64
import TypedPath.Number.Decimal
import TypedPath.Number.DecimalOfFloat
import TypedPath.Number.FloatText
import TypedPath.Number.Numeral
import TypedPath.Number.Shortest
import TypedPath.Pattern.Basic
import TypedPath.Pattern.Escape
import TypedPath.Pattern.Footprint
import TypedPath.Pattern.Meaning
import TypedPath.Pattern.Octets
import TypedPath.Pattern.Reader
import TypedPath.Pattern.SetReader
import TypedPath.Pattern.Simplify
import TypedPath.Pattern.Whole
import TypedPath.Pattern.Written
import TypedPath.Proofs.CheckFailures
import TypedPath.Proofs.CheckSound
import TypedPath.Proofs.Conformance
import TypedPath.Proofs.PathEval
import TypedPath.Proofs.PathValues
import TypedPath.Proofs.ScopeKept
import TypedPath.Proofs.ScopeRun
import TypedPath.Proofs.Shape
import TypedPath.Proofs.Steps
import TypedPath.Proofs.StoredIndexes
import TypedPath.Query
import TypedPath.Schema.Record
import TypedPath.Schema.ValueClass
import TypedPath.Text.CaseFolding
import TypedPath.Text.CodePointSet
import TypedPath.Text.Property.Added
import TypedPath.Text.Property.Age
import TypedPath.Text.Property.Binary
import TypedPath.Text.Property.Break
import TypedPath.Text.Property.Category
import TypedPath.Text.Property.Derived
import TypedPath.Text.Property.Name
import TypedPath.Text.Property.Script
import TypedPath.Text.Property.ScriptExtension
import TypedPath.Text.Quoted
import TypedPath.Typing.Check
import TypedPath.Typing.Finding
import TypedPath.Typing.Infer
import TypedPath.Typing.Operands
import TypedPath.Typing.Scope
import TypedPath.Value.Basic
import TypedPath.Value.Content
import TypedPath.Value.Fields
import TypedPath.Proofs.SingleValues
import TypedPath.Proofs.SchemaGrowth
import TypedPath.Proofs.ScopeReuse
import TypedPath.Proofs.InferGrowth
import TypedPath.Proofs.OperandGrowth
import TypedPath.Proofs.CheckGrowth
import TypedPath.Proofs.ClosedValues
import TypedPath.Proofs.BracketForms
import TypedPath.Proofs.WrittenValues
import TypedPath.Proofs.RelativeReads
import TypedPath.Proofs.ScalarFilters
import TypedPath.Proofs.SegmentMarks
import TypedPath.Proofs.Viewpoints
import TypedPath.Proofs.TwoRuns
import TypedPath.Proofs.DepthLimit
import TypedPath.Proofs.AbsolutePaths
import TypedPath.Proofs.TrailEnds
import TypedPath.Proofs.Verdicts
import TypedPath.Proofs.ContentReads
import TypedPath.Proofs.PathVisits
import TypedPath.Proofs.PathHalves
import TypedPath.Proofs.StoragePlaces
import TypedPath.Proofs.NestedCollections
import TypedPath.Proofs.FilterFusion
import TypedPath.Proofs.ConcretePaths
import TypedPath.Proofs.IntegerArithmetic
import TypedPath.Proofs.BracketFreePaths
import TypedPath.Proofs.BuiltTrees
import TypedPath.Proofs.LiteralOperands
import TypedPath.Proofs.WrappedLiterals
import TypedPath.Proofs.ClassOrder
import TypedPath.Proofs.MethodHistory
import TypedPath.Proofs.ContentWrites
