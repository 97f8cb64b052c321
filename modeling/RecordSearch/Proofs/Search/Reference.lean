import RecordSearch.Proofs.Predicate.Matching
import RecordSearch.Proofs.Source.Narrowing

/-!
# What a search finds

A record answers a query if each term of it occurs in the text of some eligible member. A search in
memory finds exactly the records that answer.

## Main result

`searchWith_ofList`: a search leaves the records as they are, fails, or keeps those that answer.
-/
namespace RecordSearch

/-- A record answers a query if every term occurs in the text of one of the eligible members, which
may be another for each term. -/
def Schema.Answers (schema : Schema) (query : String) (options : Options) (record : Record) :
    Prop :=
  ∀ term ∈ splitTerms query options, ∃ m ∈ schema.selected options.mode,
    ∃ text ∈ m.text? options record, term.toList <:+: text.toList

/-- The same as a test. -/
def Schema.answers (schema : Schema) (query : String) (options : Options) (record : Record) :
    Bool :=
  (splitTerms query options).all fun term => (schema.selected options.mode).any fun m =>
    (m.text? options record).any (Text.contains · term)

theorem Schema.answers_iff {schema : Schema} {query : String} {options : Options}
    {record : Record} :
    schema.answers query options record = true ↔ schema.Answers query options record := by
  simp [answers, Answers, Option.any_eq_true, Text.contains_iff]

instance (schema : Schema) (query : String) (options : Options) (record : Record) :
    Decidable (schema.Answers query options record) :=
  decidable_of_iff _ Schema.answers_iff

namespace Predicate

variable {schema : Schema} {options : Options}

/-- The predicates of terms together accept the records in which each term occurs. -/
theorem all_test_of_build_nil {terms : List String} {predicates : List Predicate}
    (built : List.Forall₂ (fun term p => build schema options [] term = .ok p) terms predicates)
    (record : Record) :
    (predicates.all fun p => p.body.test p.param record) =
      terms.all fun term => (schema.selected options.mode).any fun m =>
        (m.text? options record).any (Text.contains · (options.fold term)) := by
  induction built with
  | nil => rfl
  | cons first _ ih => rw [List.all_cons, List.all_cons, ih, test_of_build_nil first]

/-- The predicates of a query together accept the records that answer it. -/
theorem all_test_of_splitTerms {query : String} {predicates : List Predicate}
    (built : (splitTerms query options).mapM (build schema options []) = .ok predicates)
    (record : Record) :
    (predicates.all fun p => p.body.test p.param record) = schema.answers query options record := by
  rw [all_test_of_build_nil (mapM_eq_ok_iff.mp built) record, Schema.answers]
  -- Building a predicate folds its term, which splitting the query has done before.
  rw [Bool.eq_iff_iff, List.all_eq_true, List.all_eq_true]
  refine forall₂_congr fun term member => ?_
  rw [fold_eq_self_of_mem_splitTerms member]

end Predicate

variable {α : Type} [Searchable α]

/-- What a search of the eligible members leaves of the hits. A blank query has no terms, so every
record answers it. -/
theorem Memory.hits_compile {query : String} {options : Options} (memory : Memory α)
    (given : (Searchable.schema α).selected options.mode ≠ []) :
    (compile memory (some query) options none).result.map Memory.hits =
      .ok (memory.hits.filter fun item =>
        (Searchable.schema α).answers query options (Searchable.record item)) := by
  obtain ⟨predicates, built⟩ : ∃ predicates, (splitTerms query options).mapM
      (Predicate.build (Searchable.schema α) options []) = .ok predicates :=
    exists_mapM_eq_ok fun term _ => Predicate.exists_build_nil given term
  have asked : Predicate.ofQuery (Searchable.schema α) (some query) options none =
      .ok predicates := by
    rw [Predicate.ofQuery_eq_mapM, if_neg nofun]
    exact built
  rw [Memory.result_compile, asked]
  refine congrArg Except.ok ?_
  rw [Memory.hits, Memory.hits, List.filter_filter]
  refine List.filter_congr fun item _ => ?_
  rw [Memory.accepts, List.all_append, Memory.accepts, Bool.and_comm,
    ← Predicate.all_test_of_splitTerms built]
  rfl

/-- A search of the eligible members of records in memory. A query that is missing or blank changes
nothing; any other fails for want of an eligible member, or keeps the records that answer it. -/
theorem searchWith_ofList (items : List α) (query : Option String) (options : Options) :
    (query.all isBlankQuery = true ∧
        (searchWith (Memory.ofList items) query options).result = .ok (Memory.ofList items)) ∨
      ∃ text, query = some text ∧ isBlankQuery text = false ∧
        (((Searchable.schema α).selected options.mode = [] ∧
            (searchWith (Memory.ofList items) query options).result =
              .error (.noSearchableFields (Searchable.schema α).typeName)) ∨
          ((Searchable.schema α).selected options.mode ≠ [] ∧
            ∃ found, (searchWith (Memory.ofList items) query options).result = .ok found ∧
              found.hits = items.filter fun item =>
                (Searchable.schema α).Answers text options (Searchable.record item))) := by
  rw [searchWith, Memory.result_compile]
  cases query with
  | none => exact Or.inl ⟨rfl, rfl⟩
  | some text =>
    by_cases blank : isBlankQuery text = true
    · refine Or.inl ⟨blank, ?_⟩
      simp [Predicate.ofQuery, blank, Except.map, Memory.ofList]
    · refine Or.inr ⟨text, rfl, by simpa using blank, ?_⟩
      have asked : Predicate.ofQuery (Searchable.schema α) (some text) options none =
          (splitTerms text options).mapM (Predicate.build (Searchable.schema α) options []) := by
        simp [Predicate.ofQuery, blank]
      rw [asked]
      by_cases none : (Searchable.schema α).selected options.mode = []
      · refine Or.inl ⟨none, ?_⟩
        -- The query has a first term, and building its predicate fails.
        have asks : splitTerms text options ≠ [] := mt splitTerms_eq_nil_iff.mp blank
        obtain ⟨term, rest, terms⟩ := List.exists_cons_of_ne_nil asks
        rw [terms, mapM_eq_error (Predicate.build_nil_eq_error none term)]
        rfl
      · have each : ∀ term ∈ splitTerms text options,
            ∃ p, Predicate.build (Searchable.schema α) options [] term = .ok p :=
          fun term _ => Predicate.exists_build_nil none term
        obtain ⟨predicates, built⟩ := exists_mapM_eq_ok each
        refine Or.inr ⟨none, ⟨items, predicates⟩, by simp [built, Except.map, Memory.ofList], ?_⟩
        refine List.filter_congr fun item _ => ?_
        rw [Memory.accepts]
        exact (Predicate.all_test_of_splitTerms built _).trans
          (Bool.eq_iff_iff.mpr (Schema.answers_iff.trans decide_eq_true_iff.symm))

end RecordSearch
