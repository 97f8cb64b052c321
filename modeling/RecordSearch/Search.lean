import RecordSearch.Predicate
import RecordSearch.Trace

/-!
Free-text search. The terms of a query are its words, in upper case if case does not count. A query
narrows its source once for each of its terms, so that a hit satisfies them all. A missing or blank
query, and an empty list of explicit fields, ask for nothing and leave the source as it is.
-/
namespace RecordSearch

/-! ### Sources -/

/-- A source of records of one type that can be narrowed by predicates. -/
class Source (σ : Type) (ε : outParam Type) where
  schema : Schema
  /-- An error of compilation as an error of the source. -/
  ofSearchError : SearchError → ε
  narrow : σ → Predicate → Traced ε σ

/-! ### Terms -/

/-- The terms of a query. The whole query is folded before it is split. -/
def splitTerms (query : String) (options : Options) : List String :=
  (Text.words (options.fold query).toList).map String.ofList

/-- Whether a query asks for nothing. -/
def isBlankQuery (query : String) : Bool := Text.isBlank query.toList

/-! ### Compilation -/

variable {σ ε : Type} [Source σ ε]

def narrowByTerms (options : Options) (fields : List Field) : List String → σ → Traced ε σ
  | [], source => pure source
  | term :: rest, source => do
    let predicate ← Traced.ofExcept
      ((Predicate.build (Source.schema σ) options fields term).mapError (Source.ofSearchError σ))
    Traced.emit (.narrowing predicate)
    let narrowed ← Source.narrow source predicate
    narrowByTerms options fields rest narrowed

/-- Terms can be taken in two parts. -/
theorem narrowByTerms_append (options : Options) (fields : List Field) (first second : List String)
    (source : σ) :
    narrowByTerms options fields (first ++ second) source =
      narrowByTerms options fields first source >>= narrowByTerms options fields second := by
  induction first generalizing source with
  | nil => exact (Traced.ofExcept_ok_bind source (narrowByTerms options fields second)).symm
  | cons term rest ih => simp only [List.cons_append, narrowByTerms, ih, Traced.bind_assoc]

/-- Compile a query against a source. No list of fields is not the same as an empty one. -/
def compile (source : σ) (query : Option String) (options : Options)
    (fields : Option (List Field)) : Traced ε σ :=
  match query with
  | none => pure source
  | some query =>
    -- The query comes before the fields: a blank one asks for nothing, whatever the fields are.
    if isBlankQuery query then pure source
    else
      match fields with
      | some [] => pure source
      | fields => do
        let terms := splitTerms query options
        let fields := fields.getD []
        Traced.emit (.compiling terms.length options fields.length)
        narrowByTerms options fields terms source

def search (source : σ) (query : Option String) : Traced ε σ :=
  compile source query .default none

def searchWith (source : σ) (query : Option String) (options : Options) : Traced ε σ :=
  compile source query options none

def searchFields (source : σ) (query : Option String) (fields : List Field) : Traced ε σ :=
  compile source query .default (some fields)

def searchFieldsWith (source : σ) (query : Option String) (options : Options)
    (fields : List Field) : Traced ε σ :=
  compile source query options (some fields)

end RecordSearch
