import RecordSearch.Proofs.Source.Failure
import RecordSearch.Proofs.Sql.Parameters

/-!
# What a search reports

The events of a search are an account of what has become of its source. A search that asks for nothing
reports nothing. Every other reports itself first, and then the predicates that it narrows by, each
with its clause if the source is a table. A search that fails has reported at most its first predicate.

## Main result

`compile_reports`: the events of a search, for each kind of source.

## Proof strategy

A source reports the same of a predicate whatever has narrowed it before, so all events of a run can be
told from the source at its start. A failing run has one term at most to account for, as searches fail
up front.
-/
namespace RecordSearch

namespace Traced

variable {ε α β : Type} {x : Traced ε α} {f : α → Traced ε β}

theorem events_bind_of_ok {a : α} (returned : x.result = .ok a) :
    (x >>= f).events = x.events ++ (f a).events := by
  change (Traced.bind x f).events = _
  simp [Traced.bind, returned]

theorem events_bind_of_error {e : ε} (failed : x.result = .error e) :
    (x >>= f).events = x.events := by
  change (Traced.bind x f).events = _
  simp [Traced.bind, failed]

end Traced

namespace Event

/-- The text of the clause that an event reports. -/
def clause? : Event → Option String
  | clauseMade _ clause _ => some clause
  | _ => none

/-- The number of parameters that an event reports. -/
def paramCount : Event → Nat
  | clauseMade _ _ params => params
  | _ => 0

end Event

/-- A search that asks for nothing has no query, or a blank one, or no field in the list that it is
given. -/
def AsksNothing (query : Option String) (fields : Option (List Field)) : Prop :=
  query.elim True (isBlankQuery · = true) ∨ fields = some []

/-- The event with which a search begins. -/
def searchBegins (query : Option String) (options : Options) (fields : Option (List Field)) : Event :=
  .compiling (queryTerms query options).length options (fields.getD []).length

section Runs

variable {σ ε : Type} [Source σ ε]

/-- What a search of a source reports. The predicates of its terms, the source that they have narrowed
and the events behind the first one are related by `accounts`; a predicate that the source does not
take, and the error, by `refuses`. -/
structure Reports (source : σ) (query : Option String) (options : Options)
    (fields : Option (List Field)) (accounts : List Predicate → σ → List Event → Prop)
    (refuses : Predicate → ε → Prop) : Prop where
  nothing : AsksNothing query fields → compile source query options fields = pure source
  /-- Each term has its predicate, and each predicate its event, in the order of the terms. -/
  found : ¬ AsksNothing query fields → ∀ next : σ,
    (compile source query options fields).result = .ok next →
      ∃ predicates later,
        (compile source query options fields).events = searchBegins query options fields :: later ∧
        List.Forall₂ (fun term p =>
            Predicate.build (Source.schema σ) options (fields.getD []) term = .ok p)
          (queryTerms query options) predicates ∧
        (later.filter fun event => event.level == "TRACE") = predicates.map .narrowing ∧
        accounts predicates next later
  /-- The first term decides: it has no predicate, or it has one that the source does not take. -/
  failed : ¬ AsksNothing query fields → ∀ e : ε,
    (compile source query options fields).result = .error e →
      ∃ term rest, queryTerms query options = term :: rest ∧
        ((∃ cause,
            Predicate.build (Source.schema σ) options (fields.getD []) term = .error cause ∧
            e = Source.ofSearchError σ cause ∧
            (compile source query options fields).events = [searchBegins query options fields]) ∨
          ∃ p, Predicate.build (Source.schema σ) options (fields.getD []) term = .ok p ∧
            refuses p e ∧
            (compile source query options fields).events =
              [searchBegins query options fields, .narrowing p])

/-- A source that reports of a predicate what it would have reported at any time before. -/
def ReportsSteadily (σ : Type) {ε : Type} [Source σ ε] : Prop :=
  ∀ (source next : σ) (p : Predicate), (Source.narrow source p).result = .ok next →
    ∀ q : Predicate, (Source.narrow next q).events = (Source.narrow source q).events

/-- A source that reports nothing of a predicate that it does not take. -/
def RefusesSilently (σ : Type) {ε : Type} [Source σ ε] : Prop :=
  ∀ (source : σ) (p : Predicate) (e : ε), (Source.narrow source p).result = .error e →
    (Source.narrow source p).events = []

variable {options : Options} {fields : List Field} {term : String} {rest : List String} {source : σ}

/-! ### One term -/

theorem narrowByTerms_of_unbuilt {cause : SearchError}
    (unbuilt : Predicate.build (Source.schema σ) options fields term = .error cause) :
    narrowByTerms options fields (term :: rest) source =
      ⟨[], .error (Source.ofSearchError σ cause)⟩ := by
  rw [narrowByTerms, unbuilt]
  exact Traced.ofExcept_error_bind _ _

theorem narrowByTerms_of_built {p : Predicate}
    (built : Predicate.build (Source.schema σ) options fields term = .ok p) :
    narrowByTerms options fields (term :: rest) source =
      Traced.emit (.narrowing p) >>= fun _ =>
        Source.narrow source p >>= narrowByTerms options fields rest := by
  rw [narrowByTerms, built]
  exact Traced.ofExcept_ok_bind _ _

/-! ### All terms -/

/-- A run that succeeds reports each predicate, and behind it what the source says to it. -/
theorem events_narrowByTerms (steady : ReportsSteadily σ) {terms : List String}
    {predicates : List Predicate} {next : σ}
    (built : List.Forall₂ (fun term p =>
      Predicate.build (Source.schema σ) options fields term = .ok p) terms predicates)
    (taken : narrowAll predicates source = .ok next) :
    (narrowByTerms options fields terms source).events =
      predicates.flatMap fun p => .narrowing p :: (Source.narrow source p).events := by
  induction built generalizing source with
  | nil => rfl
  | @cons term p rest others first _ ih =>
    rw [narrowAll_cons, bind_eq_ok_iff] at taken
    obtain ⟨narrowed, here, onward⟩ := taken
    -- The later predicates meet a source that has changed, but says the same to them.
    have later : (narrowByTerms options fields rest narrowed).events =
        others.flatMap fun q => .narrowing q :: (Source.narrow source q).events := by
      rw [ih onward]
      simp only [steady source narrowed p here]
    rw [narrowByTerms_of_built first, Traced.emit_bind, Traced.events_bind_of_ok here, later]
    rfl

/-- A run that fails does so at its first term, and has reported no more than its predicate. -/
theorem events_narrowByTerms_of_error (together : RefusesTogether σ) (silent : RefusesSilently σ)
    {e : ε} (failed : (narrowByTerms options fields (term :: rest) source).result = .error e) :
    (∃ cause, Predicate.build (Source.schema σ) options fields term = .error cause ∧
        e = Source.ofSearchError σ cause ∧
        (narrowByTerms options fields (term :: rest) source).events = []) ∨
      ∃ p, Predicate.build (Source.schema σ) options fields term = .ok p ∧
        (Source.narrow source p).result = .error e ∧
        (narrowByTerms options fields (term :: rest) source).events = [.narrowing p] := by
  have first := (together.cons term rest source).mp failed
  cases built : Predicate.build (Source.schema σ) options fields term with
  | error cause =>
    rw [narrowByTerms_of_unbuilt built] at first ⊢
    exact Or.inl ⟨cause, rfl, (Except.error.inj first).symm, rfl⟩
  | ok p =>
    rw [result_narrowByTerms_singleton, built] at first
    have refused : (Source.narrow source p).result = .error e := first
    refine Or.inr ⟨p, rfl, refused, ?_⟩
    rw [narrowByTerms_of_built built, Traced.emit_bind, Traced.events_bind_of_error refused,
      silent source p e refused]

/-! ### Searches -/

theorem compile_of_asksNothing {query : Option String} {fields : Option (List Field)}
    (nothing : AsksNothing query fields) :
    compile source query options fields = pure source := by
  cases query with
  | none => rfl
  | some text =>
    rcases nothing with blank | rfl
    · exact if_pos blank
    · by_cases blank : isBlankQuery text = true
      · exact if_pos blank
      · exact if_neg blank

theorem compile_of_asks {query : Option String} {fields : Option (List Field)}
    (asks : ¬ AsksNothing query fields) :
    compile source query options fields =
      Traced.emit (searchBegins query options fields) >>= fun _ =>
        narrowByTerms options (fields.getD []) (queryTerms query options) source := by
  rw [AsksNothing, not_or] at asks
  cases query with
  | none => exact absurd trivial asks.1
  | some text =>
    cases fields with
    | none => exact if_neg asks.1
    | some given =>
      cases given with
      | nil => exact absurd rfl asks.2
      | cons first others => exact if_neg asks.1

theorem exists_terms_of_asks {query : Option String} {fields : Option (List Field)}
    (asks : ¬ AsksNothing query fields) (options : Options) :
    ∃ term rest, queryTerms query options = term :: rest := by
  rw [AsksNothing, not_or] at asks
  cases query with
  | none => exact absurd trivial asks.1
  | some text =>
    apply List.exists_cons_of_ne_nil
    intro none
    exact asks.1 (splitTerms_eq_nil_iff.mp none)

/-- A source gives account of its searches if it says the same to a predicate at all times, and fails
up front without a word. -/
theorem Reports.of_steady {query : Option String} {fields : Option (List Field)}
    {accounts : List Predicate → σ → List Event → Prop} {refuses : Predicate → ε → Prop}
    (steady : ReportsSteadily σ) (together : RefusesTogether σ) (silent : RefusesSilently σ)
    (accounted : ∀ predicates next, narrowAll predicates source = .ok next →
      let later := predicates.flatMap fun p => .narrowing p :: (Source.narrow source p).events
      (later.filter fun event => event.level == "TRACE") = predicates.map .narrowing ∧
        accounts predicates next later)
    (refused : ∀ p e, (Source.narrow source p).result = .error e → refuses p e) :
    Reports source query options fields accounts refuses where
  nothing := compile_of_asksNothing
  found := by
    intro asks next returned
    obtain ⟨predicates, asked, taken⟩ := compile_eq_ok_iff.mp returned
    have given : fields ≠ some [] := fun none => asks (Or.inr none)
    rw [Predicate.ofQuery_eq_mapM, if_neg given, mapM_eq_ok_iff] at asked
    obtain ⟨traced, account⟩ := accounted predicates next taken
    refine ⟨predicates, _, ?_, asked, traced, account⟩
    rw [compile_of_asks asks, Traced.emit_bind, events_narrowByTerms steady asked taken]
  failed := by
    intro asks e failed
    obtain ⟨term, rest, terms⟩ := exists_terms_of_asks asks options
    rw [compile_of_asks asks, Traced.emit_bind, terms] at failed ⊢
    refine ⟨term, rest, rfl, ?_⟩
    rcases events_narrowByTerms_of_error together silent failed with
      ⟨cause, unbuilt, same, none⟩ | ⟨p, built, here, one⟩
    · exact Or.inl ⟨cause, unbuilt, same, congrArg _ none⟩
    · exact Or.inr ⟨p, built, refused p e here, congrArg _ one⟩

/-! ### Sources that take every predicate without a word -/

theorem narrowAll_of_quiet {step : σ → Predicate → σ}
    (quiet : ∀ (source : σ) (p : Predicate), Source.narrow source p = pure (step source p))
    (predicates : List Predicate) (source : σ) :
    narrowAll predicates source = .ok (predicates.foldl step source) := by
  induction predicates generalizing source with
  | nil => rfl
  | cons p rest ih =>
    rw [narrowAll_cons, quiet]
    exact ih (step source p)

theorem traced_narrowing (predicates : List Predicate) :
    ((predicates.map Event.narrowing).filter fun event => event.level == "TRACE") =
      predicates.map .narrowing := by
  rw [List.filter_eq_self]
  intro event reported
  obtain ⟨p, -, rfl⟩ := List.mem_map.mp reported
  rfl

theorem Reports.of_quiet {query : Option String} {fields : Option (List Field)}
    {step : σ → Predicate → σ}
    (quiet : ∀ (source : σ) (p : Predicate), Source.narrow source p = pure (step source p)) :
    Reports source query options fields
      (fun predicates next later =>
        later = predicates.map .narrowing ∧ next = predicates.foldl step source)
      fun _ _ => False := by
  have takes : ∀ (source : σ) (p : Predicate) (e : ε),
      (Source.narrow source p).result ≠ .error e := by
    intro source p e
    rw [quiet]
    nofun
  refine .of_steady ?_ ?_ ?_ ?_ (takes _)
  · intro source next p taken q
    rw [quiet, quiet]
    rfl
  · intro options fields term term' p p' built built' source source' e refused
    exact absurd refused (takes source p e)
  · intro source p e refused
    exact absurd refused (takes source p e)
  · intro predicates next taken
    have said : (predicates.flatMap fun p => .narrowing p :: (Source.narrow source p).events) =
        predicates.map .narrowing := by
      simp only [quiet, Traced.pure_eq, List.map_eq_flatMap]
    rw [narrowAll_of_quiet quiet] at taken
    rw [said]
    exact ⟨traced_narrowing predicates, rfl, (Except.ok.inj taken).symm⟩

end Runs

variable {α : Type} [Searchable α]

/-! ### Tables -/

namespace Sql

namespace Query

/-- The events of predicates that became clauses, each clause behind its predicate. -/
def clauseEvents (query : Query α) : List Predicate → List Clause → List Event
  | p :: predicates, clause :: clauses =>
    .narrowing p :: .clauseMade query.table clause.text clause.params.length ::
      query.clauseEvents predicates clauses
  | _, _ => []

/-- How the events of a search account for what a statement has gained. -/
structure Accounts (query : Query α) (predicates : List Predicate) (clauses : List Clause)
    (next : Query α) (later : List Event) : Prop where
  translates : TranslatesAll (Searchable.schema α) predicates clauses
  next_eq : next = { query with clauses := query.clauses ++ clauses }
  events : later = query.clauseEvents predicates clauses
  /-- The clauses that are reported are those that are added. -/
  reported : later.filterMap Event.clause? = clauses.map Clause.text
  /-- The numbers of parameters that are reported add up to those that are added. -/
  counted : next.params.length = query.params.length + (later.map Event.paramCount).sum

theorem events_narrow_of_ok {query : Query α} {p : Predicate} {clause : Clause}
    (made : Clause.ofExpr (Searchable.schema α) p.param p.body = .ok clause) :
    (query.narrow p).events = [.clauseMade query.table clause.text clause.params.length] := by
  rw [narrow, made, Traced.ofExcept_ok_bind]
  rfl

theorem events_narrow_of_error {query : Query α} {p : Predicate} {e : SqlError}
    (unmade : Clause.ofExpr (Searchable.schema α) p.param p.body = .error e) :
    (query.narrow p).events = [] := by
  rw [narrow, unmade, Traced.ofExcept_error_bind]

theorem result_narrow_eq_error_iff {query : Query α} {p : Predicate} {e : SqlError} :
    (query.narrow p).result = .error e ↔
      Clause.ofExpr (Searchable.schema α) p.param p.body = .error e := by
  rw [result_narrow, map_eq_error_iff]

theorem reportsSteadily : ReportsSteadily (Query α) := by
  intro query next p taken q
  have added : (query.narrow p).result = .ok next := taken
  rw [result_narrow] at added
  obtain ⟨clause, -, rfl⟩ := map_eq_ok_iff.mp added
  -- A clause more leaves the table as it is, and no event tells anything else of the statement.
  change ((query.addClause clause).narrow q).events = (query.narrow q).events
  cases made : Clause.ofExpr (Searchable.schema α) q.param q.body with
  | error e => rw [events_narrow_of_error made, events_narrow_of_error made]
  | ok other =>
    rw [events_narrow_of_ok made, events_narrow_of_ok made]
    rfl

theorem refusesSilently : RefusesSilently (Query α) := fun _ _ _ refused =>
  events_narrow_of_error (result_narrow_eq_error_iff.mp refused)

variable {query next : Query α} {predicates : List Predicate} {clauses : List Clause}

theorem flatMap_events_narrow
    (translates : TranslatesAll (Searchable.schema α) predicates clauses) :
    (predicates.flatMap fun p => .narrowing p :: (Source.narrow query p).events) =
      query.clauseEvents predicates clauses := by
  induction translates with
  | nil => rfl
  | @cons p clause others rest made _ ih =>
    have one : (Source.narrow query p).events =
        [.clauseMade query.table clause.text clause.params.length] :=
      events_narrow_of_ok (Clause.ofExpr_eq_ok_iff.mpr made)
    rw [List.flatMap_cons, ih, one]
    rfl

theorem traced_clauseEvents
    (translates : TranslatesAll (Searchable.schema α) predicates clauses) :
    ((query.clauseEvents predicates clauses).filter fun event => event.level == "TRACE") =
      predicates.map .narrowing := by
  induction translates with
  | nil => rfl
  | cons _ _ ih => exact congrArg _ ih

theorem accounts_clauseEvents
    (translates : TranslatesAll (Searchable.schema α) predicates clauses) :
    query.Accounts predicates clauses { query with clauses := query.clauses ++ clauses }
      (query.clauseEvents predicates clauses) where
  translates := translates
  next_eq := rfl
  events := rfl
  reported := by
    induction translates with
    | nil => rfl
    | cons _ _ ih => exact congrArg _ ih
  counted := by
    have counts : ((query.clauseEvents predicates clauses).map Event.paramCount).sum =
        (clauses.flatMap Clause.params).length := by
      induction translates with
      | nil => rfl
      | cons _ _ ih => simp [clauseEvents, Event.paramCount, ih]
    rw [counts, params, params, List.flatMap_append, List.length_append]

end Query

end Sql

/-- The events of a search tell what it has done, for every kind of source. One that asks for nothing
reports nothing and leaves the source as it is. Every other begins with an event that counts its terms
and its fields. If it succeeds, an event follows for each term, with the predicate that the source has
been narrowed by; behind it a table reports the clause that it has gained. If it fails, no more than
one predicate has been reported, which is that of the first term and has no clause. -/
theorem compile_reports (query : Option String) (options : Options) (fields : Option (List Field)) :
    (∀ memory : Memory α, Reports memory query options fields
      (fun predicates next later => later = predicates.map .narrowing ∧
        next = ⟨memory.items, memory.predicates ++ predicates⟩)
      fun _ _ => False) ∧
    (∀ items : List α, Reports items query options fields
      (fun predicates next later => later = predicates.map .narrowing ∧
        next = items.filter (Predicate.allAccept predicates))
      fun _ _ => False) ∧
    ∀ statement : Sql.Query α, Reports statement query options fields
      (fun predicates next later => ∃ clauses, statement.Accounts predicates clauses next later)
      fun p e => Sql.Clause.ofExpr (Searchable.schema α) p.param p.body = .error e := by
  refine ⟨fun memory => ?_, fun items => ?_, fun statement => ?_⟩
  · have quiet : ∀ (memory : Memory α) (p : Predicate),
        Source.narrow memory p = pure (memory.narrow p) := fun _ _ => rfl
    simpa only [Memory.foldl_narrow] using Reports.of_quiet quiet
  · have quiet : ∀ (items : List α) (p : Predicate),
        Source.narrow items p = pure (items.filter p.accepts) := fun _ _ => rfl
    have told : Reports items query options fields _ _ := Reports.of_quiet quiet
    simp only [Eager.foldl_filter] at told
    exact told
  · refine .of_steady Sql.Query.reportsSteadily Sql.Query.refusesTogether
      Sql.Query.refusesSilently ?_ fun p e refused =>
        Sql.Query.result_narrow_eq_error_iff.mp refused
    intro predicates next taken
    obtain ⟨clauses, translates, rfl⟩ := Sql.Query.narrowAll_eq_ok_iff_translatesAll.mp taken
    rw [Sql.Query.flatMap_events_narrow translates]
    exact ⟨Sql.Query.traced_clauseEvents translates, clauses,
      Sql.Query.accounts_clauseEvents translates⟩

end RecordSearch
