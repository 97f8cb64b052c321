import RecordSearch.Request
import RecordSearch.Sql.Query

/-!
Work on a table, step by step: requests, which may fail and then leave the statement as it was, and
joins.
-/
namespace RecordSearch.Sql

inductive Step where
  | request (request : Request)
  | join (clause : String)
  deriving DecidableEq, Repr

namespace Step

variable {α : Type} [Searchable α]

def run (step : Step) (query : Query α) : Traced SqlError (Query α) :=
  match step with
  | request asked => asked.run query
  | join clause => pure (query.join clause)

def runAll (steps : List Step) (query : Query α) : Query α :=
  steps.foldl (fun query step => (step.run query).keep query) query

end Step

end RecordSearch.Sql
