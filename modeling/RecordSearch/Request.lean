import RecordSearch.Search

/-!
Requests to a source, and runs of them. A failed request leaves the source as it was, so a run goes
on behind it.
-/
namespace RecordSearch

/-- What can be asked of a source. -/
inductive Request where
  /-- A search; without a list of fields it looks at the eligible members. -/
  | search (query : Option String) (options : Options) (fields : Option (List Field))
  /-- One predicate, taken as it is. -/
  | narrow (predicate : Predicate)
  deriving DecidableEq, Repr

variable {σ ε : Type} [Source σ ε]

def Request.run (request : Request) (source : σ) : Traced ε σ :=
  match request with
  | search query options fields => compile source query options fields
  | narrow predicate => Source.narrow source predicate

/-- The source after a request that came to the given result. -/
def Traced.keep (source : σ) (outcome : Traced ε σ) : σ :=
  match outcome.result with
  | .ok next => next
  | .error _ => source

def Request.runAll (requests : List Request) (source : σ) : σ :=
  requests.foldl (fun source request => (request.run source).keep source) source

/-- A run is a run of its first part and then of its second. -/
theorem Request.runAll_append (first second : List Request) (source : σ) :
    runAll (first ++ second) source = runAll second (runAll first source) := by
  simp [runAll, List.foldl_append]

end RecordSearch
