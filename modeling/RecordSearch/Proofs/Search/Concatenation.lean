import RecordSearch.Proofs.Search.Compile
import RecordSearch.Proofs.Sql.Selection

/-!
# Queries in parts

Queries are put together with white space between them, and searches one after the other. A search
for the whole query is the search for its parts in turn: a query without terms changes nothing, one
of a single term narrows once, and every other is made of these.

## Main result

`compile_append`: a search for two queries with white space between them.
-/
namespace RecordSearch

variable {σ ε : Type} [Source σ ε]

theorem result_compile_of_blank (source : σ) {query : String} (blank : isBlankQuery query = true)
    (options : Options) (fields : Option (List Field)) :
    (compile source (some query) options fields).result = .ok source := by
  simp [compile, blank]

/-- Searching takes queries to narrowing. A search for two queries with white space between them is
a search for the one and then for the other, with the same result or the same error; a search for
white space changes nothing; and a search for a single term narrows by the predicate of the term. -/
theorem compile_append (source : σ) (options : Options) (fields : Option (List Field))
    (left right : String) {blank : String} (given : blank ≠ "")
    (white : isBlankQuery blank = true) :
    (compile source (some (left ++ blank ++ right)) options fields).result =
        ((compile source (some left) options fields).result >>= fun next =>
          (compile next (some right) options fields).result) ∧
      (compile source (some blank) options fields).result = .ok source ∧
      ∀ query term, splitTerms query options = [term] → fields ≠ some [] →
        (compile source (some query) options fields).result =
          (Predicate.build (Source.schema σ) options (fields.getD []) term).mapError
            (Source.ofSearchError σ) >>= fun p => (Source.narrow source p).result := by
  refine ⟨?_, result_compile_of_blank source white options fields, ?_⟩
  · simp only [result_compile_eq_narrowByTerms]
    by_cases nothing : fields = some []
    · simp only [nothing, if_true]
      rfl
    · have terms : queryTerms (some (left ++ blank ++ right)) options =
          queryTerms (some left) options ++ queryTerms (some right) options :=
        splitTerms_append given white left right options
      simp only [nothing, if_false]
      rw [terms, result_narrowByTerms_append]
  · intro query term single asked
    have terms : queryTerms (some query) options = [term] := single
    rw [result_compile_eq_narrowByTerms, if_neg asked, terms, result_narrowByTerms_singleton]

theorem compile_append_task :
    "\t\u2003" ≠ "" ∧ isBlankQuery "\t\u2003" = true ∧
      ∃ narrowed : Sql.Query Sql.Task,
        (compile (Sql.Query.ofTable "tasks" : Sql.Query Sql.Task) (some "straße\t\u2003 4")
          ⟨.strict, true⟩ none).result = .ok narrowed ∧
        ((compile (Sql.Query.ofTable "tasks" : Sql.Query Sql.Task) (some "straße")
            ⟨.strict, true⟩ none).result >>= fun next =>
          (compile next (some " 4") ⟨.strict, true⟩ none).result) = .ok narrowed ∧
        narrowed.params = ["STRASSE", "4"] := by
  have given : "\t\u2003" ≠ "" := by decide
  have white : isBlankQuery "\t\u2003" = true := by decide
  obtain ⟨whole, -⟩ := compile_append (Sql.Query.ofTable "tasks" : Sql.Query Sql.Task)
    ⟨.strict, true⟩ none "straße" " 4" given white
  refine ⟨given, white, _, rfl, ?_, ?_⟩
  · exact whole.symm
  · decide +kernel

end RecordSearch
