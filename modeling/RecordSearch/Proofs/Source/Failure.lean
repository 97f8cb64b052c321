import RecordSearch.Proofs.Predicate.Terms
import RecordSearch.Proofs.Search.Compile
import RecordSearch.Proofs.Sql.Statement
import RecordSearch.Proofs.Sql.Translation
import RecordSearch.Source.Memory

/-!
# How searches fail

A search fails before it has narrowed anything or not at all, and its query has no part in it: what
can be wrong is wrong with the fields, with the record type or with what the source can take.

## Main result

`failsUpFront`: searches of every kind of source fail up front.

## Proof strategy

A source that takes all predicates of a search or none, and refuses them for the same cause, fails at
the first term of a query. Sources in memory take every predicate. A table refuses a predicate for
the first of its candidates that has no clause, and the candidates are the same for every term.
-/
namespace RecordSearch

section Terms

variable {σ ε : Type} [Source σ ε]

/-- A search of the source fails for a cause that its query has no part in, and not behind a term
that has narrowed the source. -/
structure FailsUpFront (source : σ) (options : Options) (fields : Option (List Field)) : Prop where
  /-- Queries that ask for something fail alike. -/
  alike : ∀ query query' : String, isBlankQuery query = false → isBlankQuery query' = false →
    ∀ e : ε, (compile source (some query) options fields).result = .error e ↔
      (compile source (some query') options fields).result = .error e
  /-- A search that has come through its first terms comes through the others. -/
  carriesOn : ∀ (query : String) (first rest : List String),
    splitTerms query options = first ++ rest → first ≠ [] → ∀ narrowed : σ,
      (narrowByTerms options (fields.getD []) first source).result = .ok narrowed →
        ∃ found : σ, (compile source (some query) options fields).result = .ok found

/-- A source that takes or refuses the predicates of one search together, whatever state it is in,
and refuses them for the same cause. -/
def RefusesTogether (σ : Type) {ε : Type} [Source σ ε] : Prop :=
  ∀ (options : Options) (fields : List Field) (term term' : String) (p p' : Predicate),
    Predicate.build (Source.schema σ) options fields term = .ok p →
      Predicate.build (Source.schema σ) options fields term' = .ok p' →
        ∀ (source source' : σ) (e : ε), (Source.narrow source p).result = .error e →
          (Source.narrow source' p').result = .error e

namespace RefusesTogether

variable {options : Options} {fields : List Field} {e : ε}

/-- One term fails as any other does, in any state. -/
theorem singleton (together : RefusesTogether σ) {term : String} {source : σ}
    (failed : (narrowByTerms options fields [term] source).result = .error e) (term' : String)
    (source' : σ) : (narrowByTerms options fields [term'] source').result = .error e := by
  rw [result_narrowByTerms_singleton] at failed ⊢
  cases built : Predicate.build (Source.schema σ) options fields term with
  | error cause =>
    have unbuilt := (Predicate.build_eq_error_congr term term').mp built
    rw [built] at failed
    rw [unbuilt]
    exact failed
  | ok p =>
    obtain ⟨p', built'⟩ := Predicate.exists_build_congr ⟨p, built⟩ term'
    rw [built] at failed
    rw [built']
    exact together options fields term term' p p' built built' source source' e failed

/-- Several terms fail as the first of them does. -/
theorem cons (together : RefusesTogether σ) (term : String) (rest : List String) (source : σ) :
    (narrowByTerms options fields (term :: rest) source).result = .error e ↔
      (narrowByTerms options fields [term] source).result = .error e := by
  induction rest generalizing term source with
  | nil => exact Iff.rfl
  | cons next rest ih =>
    have parts := result_narrowByTerms_append options fields [term] (next :: rest) source
    rw [List.singleton_append] at parts
    rw [parts, bind_eq_error_iff]
    constructor
    · rintro (failed | ⟨narrowed, passed, failed⟩)
      · exact failed
      · -- The next term would fail as this one, which has not.
        exact together.singleton ((ih next narrowed).mp failed) term source
    · exact Or.inl

theorem cons_congr (together : RefusesTogether σ) (term term' : String) (rest rest' : List String)
    (source source' : σ) :
    (narrowByTerms options fields (term :: rest) source).result = .error e ↔
      (narrowByTerms options fields (term' :: rest') source').result = .error e := by
  rw [together.cons term rest source, together.cons term' rest' source']
  constructor
  · intro failed
    exact together.singleton failed term' source'
  · intro failed
    exact together.singleton failed term source

end RefusesTogether

theorem FailsUpFront.of_refusesTogether (together : RefusesTogether σ) (source : σ)
    (options : Options) (fields : Option (List Field)) : FailsUpFront source options fields := by
  have terms_of_asked : ∀ query : String, isBlankQuery query = false →
      ∃ term rest, queryTerms (some query) options = term :: rest := by
    intro query asked
    apply List.exists_cons_of_ne_nil
    intro none
    rw [splitTerms_eq_nil_iff.mp none] at asked
    cases asked
  constructor
  case alike =>
    intro query query' asked asked' e
    obtain ⟨term, rest, terms⟩ := terms_of_asked query asked
    obtain ⟨term', rest', terms'⟩ := terms_of_asked query' asked'
    rw [result_compile_eq_narrowByTerms, result_compile_eq_narrowByTerms, terms, terms']
    split
    · exact Iff.rfl
    · exact together.cons_congr term term' rest rest' source source
  case carriesOn =>
    intro query first rest terms given narrowed passed
    rw [result_compile_eq_narrowByTerms]
    split
    · exact ⟨source, rfl⟩
    · have whole : queryTerms (some query) options = first ++ rest := terms
      cases result : (narrowByTerms options (fields.getD [])
          (queryTerms (some query) options) source).result with
      | ok found => exact ⟨found, rfl⟩
      | error e =>
        -- The failure would be that of the first terms, and these have passed.
        obtain ⟨term, others, rfl⟩ := List.exists_cons_of_ne_nil given
        rw [whole, List.cons_append] at result
        have failed := (together.cons_congr term term (others ++ rest) others source source).mp result
        cases passed.symm.trans failed

end Terms

variable {α : Type} [Searchable α]

/-! ### Sources in memory -/

theorem Memory.refusesTogether : RefusesTogether (Memory α) := by
  intro options fields term term' p p' built built' source source' e refused
  cases refused

theorem Eager.refusesTogether : RefusesTogether (List α) := by
  intro options fields term term' p p' built built' source source' e refused
  cases refused

/-! ### Tables -/

namespace Sql

namespace Clause

variable {schema : Schema} {placeholder : String}

/-- An alternative has no clause where the first test that has none is. -/
private theorem ofExpr_foldl_or_eq_error_iff {tests : List Expr} {first : Expr} {e : SqlError} :
    ofExpr schema placeholder (tests.foldl .or first) = .error e ↔
      (first :: tests).mapM (ofExpr schema placeholder) = .error e := by
  induction tests generalizing first with
  | nil => simp [bind_eq_error_iff]
  | cons test rest ih =>
    -- Either side of the first `OR` fails as it does in the traversal.
    rw [List.foldl_cons, ih, List.mapM_cons, List.mapM_cons, List.mapM_cons, ofExpr]
    cases ofExpr schema placeholder first with
    | error e' => rfl
    | ok a =>
      cases ofExpr schema placeholder test with
      | error e' => rfl
      | ok b =>
        cases rest.mapM (ofExpr schema placeholder) with
        | error e' => rfl
        | ok clauses => simp

theorem ofExpr_anyOf_eq_error_iff {tests : List Expr} {body : Expr} {e : SqlError}
    (joined : Predicate.anyOf tests = some body) :
    ofExpr schema placeholder body = .error e ↔
      tests.mapM (ofExpr schema placeholder) = .error e := by
  cases tests with
  | nil => cases joined
  | cons first rest =>
    obtain rfl := Option.some.inj joined
    exact ofExpr_foldl_or_eq_error_iff

/-- The clause of a built predicate cannot be made where that of a candidate cannot. -/
theorem ofExpr_eq_error_iff_of_build {options : Options} {fields : List Field} {term : String}
    {p : Predicate} {found : List Candidate} {e : SqlError}
    (built : Predicate.build schema options fields term = .ok p)
    (gathered : Predicate.candidates schema options fields = .ok found) :
    ofExpr schema p.param p.body = .error e ↔
      found.mapM (fun candidate => ofExpr schema Predicate.builtParam candidate.value) =
        .error e := by
  obtain ⟨param, joined⟩ := Predicate.joined_of_build built gathered
  rw [param, ofExpr_anyOf_eq_error_iff joined, List.mapM_map]
  refine mapM_eq_error_congr fun candidate e => ?_
  rw [Function.comp_apply, ofExpr_comparison, map_eq_error_iff]

end Clause

theorem Query.refusesTogether : RefusesTogether (Query α) := by
  intro options fields term term' p p' built built' query query' e refused
  change Predicate.build (Searchable.schema α) options fields term = .ok p at built
  change Predicate.build (Searchable.schema α) options fields term' = .ok p' at built'
  obtain ⟨found, gathered, -⟩ := Predicate.build_eq_ok_iff.mp built
  have narrowed : ∀ (query : Query α) (p : Predicate), (Source.narrow query p).result =
      (Clause.ofExpr (Searchable.schema α) p.param p.body).map query.addClause :=
    Query.result_narrow
  rw [narrowed, map_eq_error_iff] at refused ⊢
  -- Both predicates have the candidates that were found, and those decide.
  rw [Clause.ofExpr_eq_error_iff_of_build built gathered] at refused
  rw [Clause.ofExpr_eq_error_iff_of_build built' gathered]
  exact refused

end Sql

/-- Searches fail up front, or not at all: of records that are held lazily, of records that are held
eagerly, and of tables. -/
theorem failsUpFront (options : Options) (fields : Option (List Field)) :
    (∀ memory : Memory α, FailsUpFront memory options fields) ∧
      (∀ items : List α, FailsUpFront items options fields) ∧
        ∀ query : Sql.Query α, FailsUpFront query options fields := by
  refine ⟨fun memory => ?_, fun items => ?_, fun query => ?_⟩
  · exact .of_refusesTogether Memory.refusesTogether memory options fields
  · exact .of_refusesTogether Eager.refusesTogether items options fields
  · exact .of_refusesTogether Sql.Query.refusesTogether query options fields

end RecordSearch
