import RecordSearch.Proofs.Predicate.Fields
import RecordSearch.Proofs.Source.Narrowing

/-!
# Looser options

Options are loosened by searching all members, by letting case not count, or by both. What a search
in memory has found it still finds then.

## Main result

`compile_loosened`: a search with looser options succeeds too, and loses no hit.

## Proof strategy

Term by term: the looser predicate has the candidates of the other one among its own, and
upper-casing keeps one text within another.
-/
namespace RecordSearch

/-- Options that look at no fewer members, and do not begin to let case count. -/
structure Options.LoosensTo (options looser : Options) : Prop where
  mode : options.mode = .all → looser.mode = .all
  ignoreCase : options.ignoreCase = true → looser.ignoreCase = true

/-- Folding keeps one text within another. -/
theorem fold_infix (options : Options) {part text : String}
    (inside : part.toList <:+: text.toList) :
    (options.fold part).toList <:+: (options.fold text).toList := by
  by_cases ignored : options.ignoreCase = true
  · simp only [Options.fold, ignored, if_true, Text.toList_upper]
    exact inside.flatMap _
  · simpa [Options.fold, ignored] using inside

section

variable {options looser : Options} (loosens : options.LoosensTo looser)
include loosens

theorem fold_fold (text : String) : looser.fold (options.fold text) = looser.fold text := by
  by_cases ignored : options.ignoreCase = true
  · simp [Options.fold, ignored, loosens.ignoreCase ignored, Text.upper_upper]
  · simp [Options.fold, ignored]

/-- A text that holds a term still holds it. -/
theorem contains_loosened {text term : String}
    (held : Text.contains (options.fold text) (options.fold term) = true) :
    Text.contains (looser.fold text) (looser.fold term) = true := by
  rw [Text.contains_iff] at held ⊢
  simpa only [fold_fold loosens] using fold_infix looser held

/-- A member that is looked at still is. -/
theorem mem_selected_loosened {schema : Schema} {m : Member}
    (selected : m ∈ schema.selected options.mode) : m ∈ schema.selected looser.mode := by
  obtain ⟨declared, visible, single, confined⟩ := mem_selected_iff.mp selected
  -- Looser options are strict only if the others are.
  refine mem_selected_iff.mpr ⟨declared, visible, single, fun strict => confined ?_⟩
  cases before : options.mode with
  | strict => rfl
  | all => cases strict.symm.trans (loosens.mode before)

namespace Predicate

variable {schema : Schema} {fields : List Field}

theorem candidates_loosened {found : List Candidate}
    (gathered : candidates schema options fields = .ok found) :
    ∃ found', candidates schema looser fields = .ok found' ∧ found ⊆ found' := by
  cases fields with
  | nil =>
    rw [candidates_nil] at gathered
    obtain rfl := Except.ok.inj gathered
    exact ⟨_, candidates_nil schema looser,
      List.map_subset _ fun _ selected => mem_selected_loosened loosens selected⟩
  | cons first rest =>
    -- Explicit fields are candidates whatever the options are.
    exact ⟨found, gathered, List.Subset.refl found⟩

/-- The predicate of a term under looser options passes every record that the other one does. -/
theorem build_loosened {term : String} {p : Predicate}
    (built : build schema options fields term = .ok p) :
    ∃ p', build schema looser fields (looser.fold term) = .ok p' ∧
      ∀ record, p.body.test p.param record = true → p'.body.test p'.param record = true := by
  obtain ⟨found, gathered, -, joined⟩ := build_eq_ok_iff.mp built
  obtain ⟨found', gathered', among⟩ := candidates_loosened loosens gathered
  cases built' : build schema looser fields (looser.fold term) with
  | error e =>
    -- There are candidates, for otherwise there would have been none before.
    rcases build_eq_error_iff_candidates.mp built' with failed | ⟨none, -⟩
    · cases gathered'.symm.trans failed
    · obtain rfl : found' = [] := Except.ok.inj (gathered'.symm.trans none)
      rw [List.subset_nil.mp among] at joined
      cases joined
  | ok p' =>
    refine ⟨p', rfl, fun record passed => ?_⟩
    rw [test_of_build built gathered] at passed
    rw [test_of_build built' gathered', List.any_eq_true]
    obtain ⟨candidate, member, held⟩ := List.any_eq_true.mp passed
    refine ⟨candidate, among member, ?_⟩
    rw [Option.any_map] at held ⊢
    obtain ⟨text, seen, inside⟩ := (Option.any_eq_true _ _).mp held
    refine (Option.any_eq_true _ _).mpr ⟨text, seen, ?_⟩
    -- The new term is folded twice, of which the second time does nothing.
    have twice : looser.fold (looser.fold term) = looser.fold term := fold_fold ⟨id, id⟩ term
    have still := contains_loosened loosens inside
    rwa [← twice] at still

/-- A search under looser options has its predicates too, and together they pass every record that
the others do. -/
theorem ofQuery_loosened {query : Option String} {fields : Option (List Field)}
    {predicates : List Predicate}
    (asked : ofQuery schema query options fields = .ok predicates) :
    ∃ predicates', ofQuery schema query looser fields = .ok predicates' ∧
      Admits predicates predicates' := by
  have terms : queryTerms query looser = (queryTerms query options).map looser.fold := by
    cases query with
    | none => rfl
    | some text => exact splitTerms_eq_map_fold loosens.ignoreCase text
  rw [ofQuery_eq_mapM] at asked ⊢
  by_cases nothing : fields = some []
  · rw [if_pos nothing] at asked
    exact ⟨predicates, by rw [if_pos nothing, asked], fun record passed => passed⟩
  · -- Each term is taken with its folded form, which has a predicate of its own.
    rw [if_neg nothing] at asked ⊢
    rw [terms, List.mapM_map]
    exact exists_mapM_admitting (fun term p built => build_loosened loosens built) asked

end Predicate

/-- A search in memory that succeeds does so under looser options, whatever has narrowed the records
before, and every record that it has selected is selected still, in the same order. The same holds
of a list that is filtered at once. -/
theorem compile_loosened {α : Type} [Searchable α] (query : Option String)
    (fields : Option (List Field)) :
    (∀ memory found : Memory α, (compile memory query options fields).result = .ok found →
      ∃ found', (compile memory query looser fields).result = .ok found' ∧
        (∀ item, found.accepts item = true → found'.accepts item = true) ∧
        found.hits.Sublist found'.hits) ∧
      ∀ items kept : List α, (compile items query options fields).result = .ok kept →
        ∃ kept', (compile items query looser fields).result = .ok kept' ∧ kept.Sublist kept' := by
  constructor
  · intro memory found returned
    rw [Memory.result_compile] at returned
    obtain ⟨predicates, asked, rfl⟩ := map_eq_ok_iff.mp returned
    obtain ⟨predicates', asked', admits⟩ := Predicate.ofQuery_loosened loosens asked
    refine ⟨_, by rw [Memory.result_compile, asked']; rfl, fun item => ?_, ?_⟩
    · exact Memory.accepts_of_admits admits
    · exact Memory.hits_sublist_of_admits admits
  · intro items kept returned
    rw [Eager.result_compile] at returned
    obtain ⟨predicates, asked, rfl⟩ := map_eq_ok_iff.mp returned
    obtain ⟨predicates', asked', admits⟩ := Predicate.ofQuery_loosened loosens asked
    refine ⟨_, ?_, Eager.filter_sublist_of_admits admits items⟩
    rw [Eager.result_compile, asked']
    rfl

end

def Book.shelf : List Book := [⟨"Emma", 1815⟩, ⟨"EMMA 2", 1932⟩, ⟨"Ulysses", 1922⟩]

theorem compile_loosened_book :
    (⟨.strict, false⟩ : Options).LoosensTo ⟨.all, true⟩ ∧
      ∃ found found' : Memory Book,
        (compile (Memory.ofList Book.shelf) (some "mm") ⟨.strict, false⟩ none).result = .ok found ∧
          found.hits = [⟨"Emma", 1815⟩] ∧
        (compile (Memory.ofList Book.shelf) (some "mm") ⟨.all, true⟩ none).result = .ok found' ∧
          found'.hits = [⟨"Emma", 1815⟩, ⟨"EMMA 2", 1932⟩] ∧
        found.hits.Sublist found'.hits := by
  have loosens : (⟨.strict, false⟩ : Options).LoosensTo ⟨.all, true⟩ := ⟨nofun, nofun⟩
  obtain ⟨found, returned⟩ : ∃ found, (compile (Memory.ofList Book.shelf) (some "mm")
      ⟨.strict, false⟩ none).result = .ok found := ⟨_, rfl⟩
  obtain ⟨found', returned', -, kept⟩ :=
    (compile_loosened loosens (some "mm") none).1 (Memory.ofList Book.shelf) found returned
  refine ⟨loosens, found, found', returned, ?_, returned', ?_, kept⟩
  · obtain rfl := Except.ok.inj returned
    rfl
  · obtain rfl := Except.ok.inj returned'
    rfl

end RecordSearch
