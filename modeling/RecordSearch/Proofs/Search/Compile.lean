import RecordSearch.Proofs.Outcome
import RecordSearch.Proofs.Search.Terms
import RecordSearch.Search

/-!
# What a search narrows its source by

A search comes down to a list of predicates, one for each term, which depends on the declaration of
the records alone. The source is narrowed by them in turn.

## Main results

`compile_eq_ok_iff`: a search succeeds if its predicates can be built and the source takes them all.
`result_compile`: a source that takes every predicate fails only where one cannot be built.
-/
namespace RecordSearch

/-- The predicates of a search, none if nothing is asked for. -/
def Predicate.ofQuery (schema : Schema) (query : Option String) (options : Options)
    (fields : Option (List Field)) : Except SearchError (List Predicate) :=
  match query with
  | none => .ok []
  | some text =>
    if isBlankQuery text = true ∨ fields = some [] then .ok []
    else (splitTerms text options).mapM (build schema options (fields.getD []))

/-- The terms of a query, none if it is missing. -/
def queryTerms (query : Option String) (options : Options) : List String :=
  query.elim [] fun text => splitTerms text options

/-- The predicates of a search are those of its terms, none if it is given an empty list of
fields. -/
theorem Predicate.ofQuery_eq_mapM (schema : Schema) (query : Option String) (options : Options)
    (fields : Option (List Field)) :
    ofQuery schema query options fields =
      if fields = some [] then .ok []
      else (queryTerms query options).mapM (build schema options (fields.getD [])) := by
  cases query with
  | none => split <;> rfl
  | some text =>
    by_cases blank : isBlankQuery text = true
    · have none : queryTerms (some text) options = [] := splitTerms_eq_nil_iff.mpr blank
      rw [none]
      simp [ofQuery, blank]
    · simp [ofQuery, blank, queryTerms]

/-- Every predicate of a search is built for some term of its query. -/
theorem Predicate.exists_term_of_mem_ofQuery {schema : Schema} {query : Option String}
    {options : Options} {fields : Option (List Field)} {predicates : List Predicate}
    (asked : ofQuery schema query options fields = .ok predicates) {p : Predicate}
    (member : p ∈ predicates) :
    ∃ term ∈ queryTerms query options, build schema options (fields.getD []) term = .ok p := by
  rw [ofQuery_eq_mapM] at asked
  split at asked
  · obtain rfl := Except.ok.inj asked
    cases member
  · exact exists_of_mem_right (mapM_eq_ok_iff.mp asked) member

theorem Predicate.exists_build_of_mem_ofQuery {schema : Schema} {query : Option String}
    {options : Options} {fields : Option (List Field)} {predicates : List Predicate}
    (asked : ofQuery schema query options fields = .ok predicates) {p : Predicate}
    (member : p ∈ predicates) : ∃ term, build schema options (fields.getD []) term = .ok p := by
  obtain ⟨term, -, built⟩ := exists_term_of_mem_ofQuery asked member
  exact ⟨term, built⟩

/-- Whether the predicates of one list together pass every record that those of another pass. -/
def Predicate.Admits (predicates others : List Predicate) : Prop :=
  ∀ record, (predicates.all fun p => p.body.test p.param record) = true →
    (others.all fun p => p.body.test p.param record) = true

/-- Predicates that are made step by step pass no fewer records than others if each of them does. -/
theorem Predicate.exists_mapM_admitting {α : Type} {f g : α → Except SearchError Predicate}
    (each : ∀ input p, f input = .ok p → ∃ p', g input = .ok p' ∧
      ∀ record, p.body.test p.param record = true → p'.body.test p'.param record = true)
    {inputs : List α} {predicates : List Predicate} (asked : inputs.mapM f = .ok predicates) :
    ∃ predicates', inputs.mapM g = .ok predicates' ∧ Admits predicates predicates' := by
  simp only [mapM_eq_ok_iff] at asked ⊢
  induction asked with
  | nil => exact ⟨[], .nil, fun record passed => passed⟩
  | cons built _ ih =>
    obtain ⟨p', first, admits⟩ := each _ _ built
    obtain ⟨predicates', others, admitsAll⟩ := ih
    refine ⟨p' :: predicates', .cons first others, fun record passed => ?_⟩
    rw [List.all_cons, Bool.and_eq_true] at passed ⊢
    exact ⟨admits record passed.1, admitsAll record passed.2⟩

variable {σ ε : Type} [Source σ ε]

def narrowAll (predicates : List Predicate) (source : σ) : Except ε σ :=
  predicates.foldlM (fun narrowed p => (Source.narrow narrowed p).result) source

theorem narrowAll_cons (p : Predicate) (rest : List Predicate) (source : σ) :
    narrowAll (p :: rest) source = (Source.narrow source p).result >>= narrowAll rest := by
  rw [narrowAll, List.foldlM_cons]
  rfl

theorem result_narrowByTerms_cons (options : Options) (fields : List Field) (term : String)
    (rest : List String) (source : σ) :
    (narrowByTerms options fields (term :: rest) source).result =
      (Predicate.build (Source.schema σ) options fields term).mapError (Source.ofSearchError σ) >>=
        fun p => (Source.narrow source p).result >>=
          fun narrowed => (narrowByTerms options fields rest narrowed).result := by
  simp [narrowByTerms]

/-- Terms narrow a source in two parts, the second part what the first has left. -/
theorem result_narrowByTerms_append (options : Options) (fields : List Field)
    (first second : List String) (source : σ) :
    (narrowByTerms options fields (first ++ second) source).result =
      (narrowByTerms options fields first source).result >>= fun next =>
        (narrowByTerms options fields second next).result := by
  rw [narrowByTerms_append, Traced.result_bind]

/-- A single term narrows a source once, by its predicate. -/
theorem result_narrowByTerms_singleton (options : Options) (fields : List Field) (term : String)
    (source : σ) :
    (narrowByTerms options fields [term] source).result =
      (Predicate.build (Source.schema σ) options fields term).mapError (Source.ofSearchError σ) >>=
        fun p => (Source.narrow source p).result := by
  rw [result_narrowByTerms_cons]
  -- No term is left behind the first, so what it has narrowed is the result.
  congr 1
  funext p
  cases (Source.narrow source p).result <;> rfl

/-- Terms narrow a source if each has a predicate and the source takes these in turn. -/
theorem narrowByTerms_eq_ok_iff {options : Options} {fields : List Field} {terms : List String}
    {source next : σ} :
    (narrowByTerms options fields terms source).result = .ok next ↔
      ∃ predicates, terms.mapM (Predicate.build (Source.schema σ) options fields) = .ok predicates ∧
        narrowAll predicates source = .ok next := by
  -- The source changes from term to term, so the hypothesis is needed for every source.
  induction terms generalizing source with
  | nil => simp [narrowByTerms, narrowAll]
  | cons term rest ih =>
    rw [result_narrowByTerms_cons, bind_eq_ok_iff]
    constructor
    · rintro ⟨p, built, others⟩
      obtain ⟨narrowed, taken, onward⟩ := bind_eq_ok_iff.mp others
      obtain ⟨predicates, later, all⟩ := ih.mp onward
      refine ⟨p :: predicates, ?_, ?_⟩
      · rw [mapM_eq_ok_iff] at later ⊢
        exact .cons (mapError_eq_ok_iff.mp built) later
      · rw [narrowAll_cons, taken]
        exact all
    · rintro ⟨predicates, built, all⟩
      rw [mapM_eq_ok_iff] at built
      cases built with
      | cons first later =>
        rw [narrowAll_cons, bind_eq_ok_iff] at all
        obtain ⟨narrowed, taken, onward⟩ := all
        refine ⟨_, mapError_eq_ok_iff.mpr first, bind_eq_ok_iff.mpr ⟨narrowed, taken, ?_⟩⟩
        exact ih.mpr ⟨_, mapM_eq_ok_iff.mpr later, onward⟩

/-- A search narrows by the terms of its query. Without any there is nothing to narrow by, as there
is with an empty list of fields. -/
theorem result_compile_eq_narrowByTerms (source : σ) (query : Option String) (options : Options)
    (fields : Option (List Field)) :
    (compile source query options fields).result =
      if fields = some [] then .ok source
      else (narrowByTerms options (fields.getD []) (queryTerms query options) source).result := by
  have blank_terms : ∀ text, isBlankQuery text = true → queryTerms (some text) options = [] :=
    fun text blank => splitTerms_eq_nil_iff.mpr blank
  cases query with
  | none => split <;> rfl
  | some text =>
    -- The fields matter only behind the test for a blank query, an empty list of them included.
    by_cases blank : isBlankQuery text = true
    · rw [blank_terms text blank]
      simp [compile, blank, narrowByTerms]
    · cases fields with
      | none => simp [compile, blank, queryTerms]
      | some given =>
        cases given with
        | nil => simp [compile, blank]
        | cons first rest => simp [compile, blank, queryTerms]

/-- A search succeeds if its predicates can be built and the source takes them all. -/
theorem compile_eq_ok_iff {source next : σ} {query : Option String} {options : Options}
    {fields : Option (List Field)} :
    (compile source query options fields).result = .ok next ↔
      ∃ predicates,
        Predicate.ofQuery (Source.schema σ) query options fields = .ok predicates ∧
          narrowAll predicates source = .ok next := by
  rw [result_compile_eq_narrowByTerms, Predicate.ofQuery_eq_mapM]
  split
  · simp [narrowAll]
  · exact narrowByTerms_eq_ok_iff

/-! ### Sources that take every predicate -/

section Total

variable {step : σ → Predicate → σ}

theorem result_narrowByTerms
    (total : ∀ source p, (Source.narrow source p).result = .ok (step source p)) (options : Options)
    (fields : List Field) (terms : List String) (source : σ) :
    (narrowByTerms options fields terms source).result =
      ((terms.mapM (Predicate.build (Source.schema σ) options fields)).mapError
        (Source.ofSearchError σ)).map fun predicates => predicates.foldl step source := by
  induction terms generalizing source with
  | nil => rfl
  | cons term rest ih =>
    rw [result_narrowByTerms_cons, List.mapM_cons]
    cases Predicate.build (Source.schema σ) options fields term with
    | error e => rfl
    | ok p =>
      simp only [Except.mapError, ok_bind, total, ih]
      cases rest.mapM (Predicate.build (Source.schema σ) options fields) with
      | error e => rfl
      | ok predicates => rfl

theorem result_compile
    (total : ∀ source p, (Source.narrow source p).result = .ok (step source p)) (source : σ)
    (query : Option String) (options : Options) (fields : Option (List Field)) :
    (compile source query options fields).result =
      ((Predicate.ofQuery (Source.schema σ) query options fields).mapError
        (Source.ofSearchError σ)).map fun predicates => predicates.foldl step source := by
  rw [result_compile_eq_narrowByTerms, Predicate.ofQuery_eq_mapM]
  split
  · rfl
  · exact result_narrowByTerms total options (fields.getD []) (queryTerms query options) source

end Total

end RecordSearch
