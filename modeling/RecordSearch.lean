import RecordSearch.Unicode.Basic
import RecordSearch.Unicode.Printable
import RecordSearch.Unicode.GraphemeExtend
import RecordSearch.Unicode.Identifier
import RecordSearch.Unicode.Letter
import RecordSearch.Unicode.Uppercase
import RecordSearch.Unicode.Lowercase
import RecordSearch.Text.Basic
import RecordSearch.Text.Quoted
import RecordSearch.Json.Token
import RecordSearch.Json.Tree
import RecordSearch.Decimal.Binary64
import RecordSearch.Decimal.Shortest
import RecordSearch.Decimal.Layout
import RecordSearch.Number
import RecordSearch.Value
import RecordSearch.Schema
import RecordSearch.Options.Basic
import RecordSearch.Options.Json
import RecordSearch.Selection
import RecordSearch.Error
import RecordSearch.Expr.Basic
import RecordSearch.Expr.Text
import RecordSearch.Expr.Eval
import RecordSearch.Expr.Resolve
import RecordSearch.Field
import RecordSearch.Predicate
import RecordSearch.Trace
import RecordSearch.Search
import RecordSearch.Source.Memory
import RecordSearch.Request
import RecordSearch.Sql.Clause
import RecordSearch.Sql.Conversion
import RecordSearch.Sql.Query
import RecordSearch.Sql.Step
import RecordSearch.Derive.Kind
import RecordSearch.Derive.FieldType
import RecordSearch.Derive.Inference
import RecordSearch.Derive.Trivia
import RecordSearch.Derive.Literal
import RecordSearch.Derive.Item
import RecordSearch.Derive.Error
import RecordSearch.Derive.Settings
import RecordSearch.Derive.Derivation
import RecordSearch.Proofs.Unicode.Casing
import RecordSearch.Proofs.Outcome
import RecordSearch.Proofs.Search.Terms
import RecordSearch.Proofs.Search.Compile
import RecordSearch.Proofs.Predicate.Matching
import RecordSearch.Proofs.Source.Narrowing
import RecordSearch.Proofs.Search.Reference
import RecordSearch.Proofs.Source.Agreement
import RecordSearch.Proofs.Sql.Lexer
import RecordSearch.Proofs.Sql.Reader
import RecordSearch.Proofs.Sql.Meaning
import RecordSearch.Proofs.Sql.Statement
import RecordSearch.Proofs.Sql.Translation
import RecordSearch.Proofs.Expr.Resolution
import RecordSearch.Proofs.Expr.Renaming
import RecordSearch.Proofs.Sql.Selection
import RecordSearch.Proofs.Sql.NullSafety
import RecordSearch.Proofs.Predicate.Fields
import RecordSearch.Proofs.Sql.Grouping
import RecordSearch.Proofs.Sql.Structure
import RecordSearch.Proofs.Expr.Needles
import RecordSearch.Proofs.Predicate.Terms
import RecordSearch.Proofs.Search.Concatenation
import RecordSearch.Proofs.Source.Failure
import RecordSearch.Proofs.Sql.Parameters
import RecordSearch.Proofs.Sql.Noninterference
import RecordSearch.Proofs.Unicode.Lowering
import RecordSearch.Proofs.Search.Folding
import RecordSearch.Proofs.Search.Loosening
import RecordSearch.Proofs.Sql.Folding
import RecordSearch.Proofs.Search.Restriction
import RecordSearch.Proofs.Sql.Refusal
import RecordSearch.Proofs.Sql.Columns
import RecordSearch.Proofs.Derive.Settings
import RecordSearch.Proofs.Derive.Agreement
import RecordSearch.Proofs.Derive.Records
import RecordSearch.Proofs.Expr.Navigation
import RecordSearch.Proofs.Derive.Acceptance
import RecordSearch.Proofs.Derive.Repetition
import RecordSearch.Proofs.Derive.Fields
import RecordSearch.Proofs.Derive.Refusal
import RecordSearch.Proofs.Derive.Skipping
import RecordSearch.Proofs.Derive.Constants
import RecordSearch.Proofs.Derive.Wrappers
import RecordSearch.Proofs.Text.Quoted
import RecordSearch.Proofs.Search.Words
import RecordSearch.Proofs.Source.Events
import RecordSearch.Proofs.Expr.Regrouping
import RecordSearch.Proofs.Expr.Display
