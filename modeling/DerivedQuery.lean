import DerivedQuery.Declaration
import DerivedQuery.Method.OptionsDocument
import DerivedQuery.Pipeline
import DerivedQuery.Proofs.Compilation.Binding
import DerivedQuery.Proofs.Compilation.Faults
import DerivedQuery.Proofs.Compilation.QueryText
import DerivedQuery.Proofs.Condition.Grammar
import DerivedQuery.Proofs.Condition.Ownership
import DerivedQuery.Proofs.Declaration.FieldNames
import DerivedQuery.Proofs.Declaration.Plan
import DerivedQuery.Proofs.Entity.Declared
import DerivedQuery.Proofs.Entity.Resolution
import DerivedQuery.Proofs.Executor.Nesting
import DerivedQuery.Proofs.Hook.Nesting
import DerivedQuery.Proofs.Method.AllIgnoreCase
import DerivedQuery.Proofs.Method.ExplicitText
import DerivedQuery.Proofs.Method.InsertedText
import DerivedQuery.Proofs.Method.Registration
import DerivedQuery.Proofs.Method.WrittenOrder
import DerivedQuery.Proofs.MethodName.Decomposition
import DerivedQuery.Proofs.MethodName.Parsing
import DerivedQuery.Proofs.MethodName.SubjectWords
import DerivedQuery.Proofs.NameGrammar
import DerivedQuery.Proofs.Numbering.Session
import DerivedQuery.Proofs.Paging.Arithmetic
import DerivedQuery.Proofs.Paging.Pages
import DerivedQuery.Proofs.Paging.Session
import DerivedQuery.Proofs.Pipeline.Lifecycle
import DerivedQuery.Proofs.Pipeline.Logging
import DerivedQuery.Proofs.Pipeline.Paged
import DerivedQuery.Proofs.Rewriter.Order
import DerivedQuery.Proofs.Selection
import DerivedQuery.Proofs.Statement.Insertion
import DerivedQuery.Proofs.Statement.Literal
import DerivedQuery.Proofs.Statement.Recognition
import DerivedQuery.Proofs.Text.Barrier
import DerivedQuery.Proofs.Text.Blank
import DerivedQuery.Proofs.Text.Occurrence
import DerivedQuery.Proofs.Statement.Tail
import DerivedQuery.Proofs.Statement.HintNames
import DerivedQuery.Proofs.Statement.Leading
import DerivedQuery.Proofs.Statement.ImportText
import DerivedQuery.Proofs.Statement.Ordering
import DerivedQuery.Proofs.Statement.Distinct
import DerivedQuery.Proofs.Statement.Repetition
import DerivedQuery.Proofs.Method.Repetition
import DerivedQuery.Proofs.Criterion
import DerivedQuery.Proofs.Hook.Abridgement
import DerivedQuery.Proofs.MethodName.KeywordScan
import DerivedQuery.Proofs.Method.OptionsDocument
import DerivedQuery.Proofs.MethodName.LongestKeyword
