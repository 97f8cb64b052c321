import RecordSearch.Expr.Resolve
import RecordSearch.Sql.Clause

/-!
Expressions as SQL clauses. A member of a nested record is a column of the joined table that bears
the name of the member before it.
-/
namespace RecordSearch.Sql

/-- The table that a member of `target` is a column of; the main table has no name. -/
def qualifier : Expr → Option String
  | .member _ name => some name
  | _ => none

/-- Resolve an expression; what is wrong with it is an error of the search. -/
def resolveForSql (schema : Schema) (placeholder : String) (e : Expr) :
    Except SqlError Resolved :=
  (e.resolve schema placeholder).mapError .search

/-- The clause of an expression. Only the parts whose type decides the clause are resolved, each
before its own clause is made. -/
def Clause.ofExpr (schema : Schema) (placeholder : String) : Expr → Except SqlError Clause
  | .param name => .error (.unsupported (Expr.param name).text .recordText)
  | .member target name => do
    let resolved ← resolveForSql schema placeholder (.member target name)
    match resolved.ty with
    | .record _ => .error (.unsupported (Expr.member target name).text .recordText)
    | _ => .ok (.column (qualifier target) name)
  | .toText inner => do
    let resolved ← resolveForSql schema placeholder inner
    match resolved.ty with
    -- A string column has its text already.
    | .string => ofExpr schema placeholder inner
    | .number => .castText <$> ofExpr schema placeholder inner
    | .text => .castText <$> ofExpr schema placeholder inner
    | .bool => .truthText <$> ofExpr schema placeholder inner
    | .float => .error (.unsupported (Expr.toText inner).text .floatText)
    | .collection => .error (.unsupported (Expr.toText inner).text .collectionText)
    | .record _ => .error (.unsupported (Expr.toText inner).text .recordText)
  | .upper inner => .upper <$> ofExpr schema placeholder inner
  | .isPresent inner => .notNull <$> ofExpr schema placeholder inner
  | .contains haystack needle => do
    let haystack ← ofExpr schema placeholder haystack
    return .holds haystack needle
  | .and left right => do
    let left ← ofExpr schema placeholder left
    let right ← ofExpr schema placeholder right
    return .and left right
  | .or left right => do
    let left ← ofExpr schema placeholder left
    let right ← ofExpr schema placeholder right
    return .or left right

end RecordSearch.Sql
