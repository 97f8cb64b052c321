import RecordSearch.Search
import RecordSearch.Sql.Conversion

/-!
A table as a source. Narrowing it adds a clause to the statement that selects the rows.
-/
namespace RecordSearch.Sql

/-- A statement that selects rows for records of type `α`. -/
structure Query (α : Type) where
  table : String
  joins : List String
  clauses : List Clause

namespace Query

variable {α : Type}

def ofTable (table : String) : Query α := ⟨table, [], []⟩

/-- Add a join as it is written. -/
def join (query : Query α) (clause : String) : Query α :=
  { query with joins := query.joins ++ [clause] }

def isIdentity (query : Query α) : Bool := query.clauses.isEmpty

/-- The parameters of the statement, in the order of their question marks. -/
def params (query : Query α) : List String := query.clauses.flatMap Clause.params

/-- The condition on the rows: every clause in parentheses, all of them required. -/
def whereText : List Clause → String
  | [] => ""
  | clause :: rest =>
    rest.foldl (fun text next => text ++ " AND (" ++ next.text ++ ")")
      (" WHERE (" ++ clause.text ++ ")")

/-- The columns of the table, and the table with what is joined to it. -/
def fromText (query : Query α) : String :=
  let table := quoteName query.table
  -- With joins the star is qualified, or it would yield the columns of the joined tables too.
  if query.joins.isEmpty then "SELECT * FROM " ++ table
  else
    query.joins.foldl (fun text clause => text ++ " " ++ clause)
      ("SELECT " ++ table ++ ".* FROM " ++ table)

def text (query : Query α) : String := query.fromText ++ whereText query.clauses

def addClause (query : Query α) (clause : Clause) : Query α :=
  { query with clauses := query.clauses ++ [clause] }

@[simp]
theorem params_addClause (query : Query α) (clause : Clause) :
    (query.addClause clause).params = query.params ++ clause.params := by
  simp [params, addClause]

def narrow [Searchable α] (query : Query α) (p : Predicate) : Traced SqlError (Query α) := do
  let clause ← Traced.ofExcept (Clause.ofExpr (Searchable.schema α) p.param p.body)
  Traced.emit (.clauseMade query.table clause.text clause.params.length)
  return query.addClause clause

end Query

instance {α : Type} [Searchable α] : Source (Query α) SqlError where
  schema := Searchable.schema α
  ofSearchError := .search
  narrow := Query.narrow

end RecordSearch.Sql
