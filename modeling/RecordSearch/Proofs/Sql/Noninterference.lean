import RecordSearch.Proofs.Predicate.Terms
import RecordSearch.Proofs.Sql.Parameters

/-!
# What is searched for stays out of the statement

Two predicates that differ in their needles alone narrow a table to the same statement, or neither
narrows it. The needles are told apart by the parameters only. The same holds of two searches with as
many terms, since their predicates differ in nothing else.

## Main result

`needles_stay_apart`: the text of a statement does not depend on what is searched for.

## Proof strategy

The clause of an expression without its needles is the clause of the expression without its own, so
expressions that share the one share the other, and the text of a clause is that of the clause
without needles. A search is then a matter of its predicates, taken in pairs.
-/
namespace RecordSearch.Sql

namespace Clause

/-- The clause with every needle left empty. -/
def withoutNeedles : Clause → Clause
  | column table name => column table name
  | castText inner => castText inner.withoutNeedles
  | truthText inner => truthText inner.withoutNeedles
  | upper inner => upper inner.withoutNeedles
  | notNull inner => notNull inner.withoutNeedles
  | holds haystack _ => holds haystack.withoutNeedles ""
  | and left right => and left.withoutNeedles right.withoutNeedles
  | or left right => or left.withoutNeedles right.withoutNeedles

theorem isOr_withoutNeedles (clause : Clause) : clause.withoutNeedles.isOr = clause.isOr := by
  cases clause <;> rfl

/-- The text of a clause holds no needle. -/
theorem text_withoutNeedles (clause : Clause) : clause.withoutNeedles.text = clause.text := by
  induction clause with
  | column table name => rfl
  | castText inner ih => rw [withoutNeedles, text, text, ih]
  | truthText inner ih => rw [withoutNeedles, text, text, ih]
  | upper inner ih => rw [withoutNeedles, text, text, ih]
  | notNull inner ih => rw [withoutNeedles, text, text, ih]
  | holds haystack needle ih => rw [withoutNeedles, text, text, ih]
  | and left right ihLeft ihRight =>
    rw [withoutNeedles, text, text, isOr_withoutNeedles, isOr_withoutNeedles, ihLeft, ihRight]
  | or left right ihLeft ihRight => rw [withoutNeedles, text, text, ihLeft, ihRight]

theorem withoutNeedles_shown (ty : MemberType) (value : Clause) :
    (shown ty value).withoutNeedles = shown ty value.withoutNeedles := by
  cases ty <;> rfl

theorem qualifier_withoutNeedles (target : Expr) :
    qualifier target.withoutNeedles = qualifier target := by
  cases target <;> rfl

variable {schema : Schema} {placeholder : String} {e e' : Expr} {clause : Clause}

theorem Translates.withoutNeedles (translates : Translates schema placeholder e clause) :
    Translates schema placeholder e.withoutNeedles clause.withoutNeedles := by
  induction translates with
  | @member target name resolved resolves single =>
    have bare := Expr.resolve_withoutNeedles_eq_ok_iff.mpr resolves
    rw [Expr.withoutNeedles] at bare ⊢
    rw [Clause.withoutNeedles, ← qualifier_withoutNeedles]
    exact .member bare single
  | toText resolves hasText _ ih =>
    rw [withoutNeedles_shown]
    exact .toText (Expr.resolve_withoutNeedles_eq_ok_iff.mpr resolves) hasText ih
  | upper _ ih => exact .upper ih
  | isPresent _ ih => exact .isPresent ih
  | contains needle _ ih => exact .contains "" ih
  | and _ _ ihLeft ihRight => exact .and ihLeft ihRight
  | or _ _ ihLeft ihRight => exact .or ihLeft ihRight

theorem exists_of_withoutNeedles {bare : Clause}
    (translates : Translates schema placeholder e.withoutNeedles bare) :
    ∃ clause, Translates schema placeholder e clause ∧ clause.withoutNeedles = bare := by
  -- The operator is that of the expression, and its operands have lost their needles alone.
  induction e generalizing bare with
  | param name => cases translates
  | member target name ih =>
    cases translates with
    | member resolves single =>
      have own := Expr.resolve_withoutNeedles_eq_ok_iff (e := .member target name) |>.mp resolves
      refine ⟨_, .member own single, ?_⟩
      rw [Clause.withoutNeedles, qualifier_withoutNeedles]
  | toText inner ih =>
    cases translates with
    | toText resolves hasText operand =>
      obtain ⟨value, made, rfl⟩ := ih operand
      have own := Expr.resolve_withoutNeedles_eq_ok_iff.mp resolves
      exact ⟨_, .toText own hasText made, withoutNeedles_shown _ _⟩
  | upper inner ih =>
    cases translates with
    | upper operand =>
      obtain ⟨value, made, rfl⟩ := ih operand
      exact ⟨_, .upper made, rfl⟩
  | isPresent inner ih =>
    cases translates with
    | isPresent operand =>
      obtain ⟨value, made, rfl⟩ := ih operand
      exact ⟨_, .isPresent made, rfl⟩
  | contains haystack needle ih =>
    cases translates with
    | contains _ operand =>
      obtain ⟨value, made, rfl⟩ := ih operand
      exact ⟨_, .contains needle made, rfl⟩
  | and left right ihLeft ihRight =>
    cases translates with
    | and first second =>
      obtain ⟨a, made, rfl⟩ := ihLeft first
      obtain ⟨b, made', rfl⟩ := ihRight second
      exact ⟨_, .and made made', rfl⟩
  | or left right ihLeft ihRight =>
    cases translates with
    | or first second =>
      obtain ⟨a, made, rfl⟩ := ihLeft first
      obtain ⟨b, made', rfl⟩ := ihRight second
      exact ⟨_, .or made made', rfl⟩

/-- Where an expression has a clause, one that differs in its needles alone has such a clause. -/
theorem Translates.exists_of_sameButNeedles (translates : Translates schema placeholder e clause)
    (same : e.SameButNeedles e') :
    ∃ clause', Translates schema placeholder e' clause' ∧
      clause'.withoutNeedles = clause.withoutNeedles := by
  have bare := translates.withoutNeedles
  rw [same] at bare
  exact exists_of_withoutNeedles bare

end Clause

/-! ### Predicates in pairs -/

variable {α : Type}

/-- Statements of the same text, each with the parameters given for it. -/
structure Alike (params params' : List String) (found found' : Query α) : Prop where
  text : found.text = found'.text
  clauses : found.clauses.map Clause.text = found'.clauses.map Clause.text
  left : found.params = params
  right : found'.params = params'

/-- Outcomes of narrowing a statement in two ways: it fails both times, or it leaves statements of
the same text. -/
inductive FailOrAlike (params params' : List String) :
    Except SqlError (Query α) → Except SqlError (Query α) → Prop
  | fail (e e' : SqlError) : FailOrAlike params params' (.error e) (.error e')
  | alike {found found' : Query α} (alike : Alike params params' found found') :
      FailOrAlike params params' (.ok found) (.ok found')

theorem FailOrAlike.of_exists {params params' : List String} {x y : Except SqlError (Query α)}
    (forth : ∀ found, x = .ok found → ∃ found', y = .ok found' ∧ Alike params params' found found')
    (back : ∀ found', y = .ok found' → ∃ found, x = .ok found) : FailOrAlike params params' x y := by
  cases x with
  | error e =>
    cases y with
    | error e' => exact .fail e e'
    | ok found' =>
      obtain ⟨found, passed⟩ := back found' rfl
      cases passed
  | ok found =>
    obtain ⟨found', rfl, alike⟩ := forth found rfl
    exact .alike alike

namespace Query

/-- The condition of a statement is read off the texts of its clauses. -/
theorem whereText_congr {clauses clauses' : List Clause}
    (same : clauses.map Clause.text = clauses'.map Clause.text) :
    whereText clauses = whereText clauses' := by
  have joined : ∀ (rest : List Clause) (start : String),
      rest.foldl (fun text next => text ++ " AND (" ++ next.text ++ ")") start =
        (rest.map Clause.text).foldl (fun text next => text ++ " AND (" ++ next ++ ")") start := by
    intro rest start
    rw [List.foldl_map]
  cases clauses with
  | nil =>
    obtain rfl := List.map_eq_nil_iff.mp same.symm
    rfl
  | cons clause rest =>
    cases clauses' with
    | nil => cases same
    | cons clause' rest' =>
      obtain ⟨first, others⟩ := List.cons.inj same
      rw [whereText, whereText, joined, joined, first, others]

theorem alike_of_withoutNeedles (query : Query α) {clauses clauses' : List Clause}
    (same : clauses'.map Clause.withoutNeedles = clauses.map Clause.withoutNeedles) :
    Alike (query.params ++ clauses.flatMap Clause.params)
      (query.params ++ clauses'.flatMap Clause.params)
      ({ query with clauses := query.clauses ++ clauses } : Query α)
      { query with clauses := query.clauses ++ clauses' } := by
  have texts : clauses.map Clause.text = clauses'.map Clause.text := by
    have bare := congrArg (List.map Clause.text) same
    simpa [Function.comp_def, Clause.text_withoutNeedles] using bare.symm
  have all : (query.clauses ++ clauses).map Clause.text =
      (query.clauses ++ clauses').map Clause.text := by
    rw [List.map_append, List.map_append, texts]
  constructor
  case text => exact congrArg (query.fromText ++ ·) (whereText_congr all)
  case clauses => exact all
  case left => exact List.flatMap_append
  case right => exact List.flatMap_append

variable {predicates predicates' : List Predicate}

/-- Predicates that differ in their needles alone have clauses that do. -/
theorem exists_clauses_of_sameButNeedles {schema : Schema} {clauses : List Clause}
    (same : List.Forall₂ Predicate.SameButNeedles predicates predicates')
    (made : TranslatesAll schema predicates clauses) :
    ∃ clauses', TranslatesAll schema predicates' clauses' ∧
      clauses'.map Clause.withoutNeedles = clauses.map Clause.withoutNeedles := by
  induction same generalizing clauses with
  | nil =>
    cases made
    exact ⟨[], .nil, rfl⟩
  | cons pair _ ih =>
    cases made with
    | cons first rest =>
      obtain ⟨clause', first', bare⟩ := first.exists_of_sameButNeedles pair.body
      obtain ⟨clauses', rest', bares⟩ := ih rest
      rw [pair.param] at first'
      refine ⟨clause' :: clauses', .cons first' rest', ?_⟩
      rw [List.map_cons, List.map_cons, bare, bares]

variable [Searchable α]

theorem exists_narrowAll_of_sameButNeedles
    (same : List.Forall₂ Predicate.SameButNeedles predicates predicates') {query found : Query α}
    (passed : narrowAll predicates query = .ok found) :
    ∃ found', narrowAll predicates' query = .ok found' ∧
      Alike (query.params ++ predicates.flatMap fun p => p.body.needles)
        (query.params ++ predicates'.flatMap fun p => p.body.needles) found found' := by
  obtain ⟨clauses, made, rfl⟩ := narrowAll_eq_ok_iff_translatesAll.mp passed
  obtain ⟨clauses', made', bare⟩ := exists_clauses_of_sameButNeedles same made
  refine ⟨_, narrowAll_eq_ok_iff_translatesAll.mpr ⟨clauses', made', rfl⟩, ?_⟩
  rw [← made.params_eq, ← made'.params_eq]
  exact alike_of_withoutNeedles query bare

/-- Narrowing by predicates that differ in their needles alone fails or leaves statements of the same
text. -/
theorem failOrAlike_narrowAll (same : List.Forall₂ Predicate.SameButNeedles predicates predicates')
    (query : Query α) :
    FailOrAlike (query.params ++ predicates.flatMap fun p => p.body.needles)
      (query.params ++ predicates'.flatMap fun p => p.body.needles)
      (narrowAll predicates query) (narrowAll predicates' query) := by
  apply FailOrAlike.of_exists
  · intro found passed
    exact exists_narrowAll_of_sameButNeedles same passed
  · intro found' passed
    have turned : List.Forall₂ Predicate.SameButNeedles predicates' predicates :=
      same.flip.imp fun p' p pair => pair.symm
    obtain ⟨found, passed, -⟩ := exists_narrowAll_of_sameButNeedles turned passed
    exact ⟨found, passed⟩

end Query

/-! ### Searches in pairs -/

variable [Searchable α]

/-- Searches with as many terms fail or leave statements of the same text. -/
theorem failOrAlike_compile {options : Options} {fields : Option (List Field)}
    {slots : List (Option String)}
    (filled : ∀ text predicates,
      Predicate.ofQuery (Searchable.schema α) text options fields = .ok predicates →
        predicates.flatMap (fun p => p.body.needles) =
          (queryTerms text options).flatMap (fillSlots slots))
    (query : Query α) {text text' : Option String}
    (asMany : (queryTerms text options).length = (queryTerms text' options).length) :
    FailOrAlike (query.params ++ (queryTerms text options).flatMap (fillSlots slots))
      (query.params ++ (queryTerms text' options).flatMap (fillSlots slots))
      (compile query text options fields).result (compile query text' options fields).result := by
  apply FailOrAlike.of_exists
  · intro found returned
    obtain ⟨predicates, asked, passed⟩ := compile_eq_ok_iff.mp returned
    obtain ⟨predicates', asked', same⟩ := Predicate.exists_ofQuery_of_length_eq asMany asked
    obtain ⟨found', passed', alike⟩ := Query.exists_narrowAll_of_sameButNeedles same passed
    rw [filled text predicates asked, filled text' predicates' asked'] at alike
    exact ⟨found', compile_eq_ok_iff.mpr ⟨predicates', asked', passed'⟩, alike⟩
  · intro found' returned
    obtain ⟨predicates', asked', passed'⟩ := compile_eq_ok_iff.mp returned
    obtain ⟨predicates, asked, same⟩ := Predicate.exists_ofQuery_of_length_eq asMany.symm asked'
    obtain ⟨found, passed, -⟩ := Query.exists_narrowAll_of_sameButNeedles same passed'
    exact ⟨found, compile_eq_ok_iff.mpr ⟨predicates, asked, passed⟩⟩

/-- What is searched for stays out of the statement. Narrowing it by predicates that differ in their
needles alone fails or leaves the same text, with the needles for parameters; and so does a search for
as many terms, which stand at places that the search keeps for them. -/
theorem needles_stay_apart (options : Options) (fields : Option (List Field)) :
    (∀ (query : Query α) (p p' : Predicate), p.SameButNeedles p' →
      p.body.needles.length = p'.body.needles.length ∧
        FailOrAlike (query.params ++ p.body.needles) (query.params ++ p'.body.needles)
          (query.narrow p).result (query.narrow p').result) ∧
      ∃ slots, ∀ (query : Query α) (text text' : Option String),
        (queryTerms text options).length = (queryTerms text' options).length →
          FailOrAlike (query.params ++ (queryTerms text options).flatMap (fillSlots slots))
            (query.params ++ (queryTerms text' options).flatMap (fillSlots slots))
            (compile query text options fields).result
            (compile query text' options fields).result := by
  constructor
  · intro query p p' same
    refine ⟨same.body.length_needles_eq, ?_⟩
    have single := Query.failOrAlike_narrowAll (.cons same .nil) query
    simpa [narrowAll, Source.narrow] using single
  · obtain ⟨slots, filled⟩ := Predicate.exists_slots (Searchable.schema α) options fields
    refine ⟨slots, fun query text text' asMany => ?_⟩
    exact failOrAlike_compile filled query asMany

theorem needles_stay_apart_note :
    Predicate.SameButNeedles ⟨"c", .contains (.member (.param "c") "title") "\" OR ?"⟩
        ⟨"c", .contains (.member (.param "c") "title") ""⟩ ∧
      (queryTerms (some "o'brien ?") ⟨.strict, false⟩).length =
        (queryTerms (some "\"; DROP") ⟨.strict, false⟩).length ∧
      ∃ found found' narrowed narrowed' : Query Note,
        (compile (Query.ofTable "notes") (some "o'brien ?") ⟨.strict, false⟩ none).result =
            .ok found ∧
          (compile (Query.ofTable "notes") (some "\"; DROP") ⟨.strict, false⟩ none).result =
            .ok found' ∧
          found.text = found'.text ∧
          found.params = ["o'brien", "o'brien", "?", "?"] ∧
          (found.narrow ⟨"c", .contains (.member (.param "c") "title") "\" OR ?"⟩).result =
            .ok narrowed ∧
          (found.narrow ⟨"c", .contains (.member (.param "c") "title") ""⟩).result =
            .ok narrowed' ∧
          narrowed.text = narrowed'.text ∧
          narrowed.params = found.params ++ ["\" OR ?"] := by
  have same : Predicate.SameButNeedles
      ⟨"c", .contains (.member (.param "c") "title") "\" OR ?"⟩
      ⟨"c", .contains (.member (.param "c") "title") ""⟩ := ⟨rfl, rfl⟩
  have asMany : (queryTerms (some "o'brien ?") ⟨.strict, false⟩).length =
      (queryTerms (some "\"; DROP") ⟨.strict, false⟩).length := by decide
  obtain ⟨single, slots, terms⟩ := needles_stay_apart (α := Note) ⟨.strict, false⟩ none
  have searched := terms (Query.ofTable "notes") (some "o'brien ?") (some "\"; DROP") asMany
  have sought : (compile (Query.ofTable "notes" : Query Note) (some "o'brien ?") ⟨.strict, false⟩
      none).result.map Query.params = .ok ["o'brien", "o'brien", "?", "?"] := by decide
  obtain ⟨found, returned⟩ : ∃ found : Query Note, (compile (Query.ofTable "notes")
      (some "o'brien ?") ⟨.strict, false⟩ none).result = .ok found := ⟨_, rfl⟩
  obtain ⟨found', returned'⟩ : ∃ found' : Query Note, (compile (Query.ofTable "notes")
      (some "\"; DROP") ⟨.strict, false⟩ none).result = .ok found' := ⟨_, rfl⟩
  rw [returned, returned'] at searched
  rw [returned] at sought
  obtain ⟨-, narrowing⟩ := single found _ _ same
  cases searched with
  | alike statements =>
    cases narrowing with
    | alike narrowed =>
      exact ⟨same, asMany, found, found', _, _, returned, returned', statements.text,
        Except.ok.inj sought, rfl, rfl, narrowed.text, narrowed.left⟩

end RecordSearch.Sql
