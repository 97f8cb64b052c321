import RecordSearch.Proofs.Expr.Needles
import RecordSearch.Proofs.Predicate.Matching
import RecordSearch.Proofs.Search.Compile

/-!
# What a predicate takes from its term

Whether a predicate can be built is a matter of its candidates, and so is its shape. The term only
fills places that are kept for it among the needles.

## Main results

`build_eq_error_congr`: a predicate that cannot be built for a term can be built for none.
`sameButNeedles_of_build`: the predicates of two terms differ in their needles alone.
`needles_of_build`: which of the needles are the term.
`exists_ofQuery_of_length_eq`: the predicates of two searches with as many terms differ in their
needles alone.
-/
namespace RecordSearch

/-- The needles in the test of a candidate: those that its value holds, and `none` where the term
is sought. -/
def Candidate.slots (candidate : Candidate) : List (Option String) :=
  let held := candidate.value.needles.map some
  (if candidate.isNullable then held else []) ++ held ++ [none]

/-- The needles with the term in its places. -/
def fillSlots (slots : List (Option String)) (term : String) : List String :=
  slots.map (·.getD term)

@[simp]
theorem fillSlots_append (first second : List (Option String)) (term : String) :
    fillSlots (first ++ second) term = fillSlots first term ++ fillSlots second term :=
  List.map_append

/-- Without a place for the term there is nothing to fill. -/
@[simp]
theorem fillSlots_map_some (needles : List String) (term : String) :
    fillSlots (needles.map some) term = needles := by
  simp [fillSlots, Function.comp_def]

namespace Predicate

/-- Predicates over one placeholder that differ in their needles alone. -/
structure SameButNeedles (p p' : Predicate) : Prop where
  param : p.param = p'.param
  body : p.body.SameButNeedles p'.body

theorem SameButNeedles.symm {p p' : Predicate} (same : p.SameButNeedles p') : p'.SameButNeedles p :=
  ⟨same.param.symm, same.body.symm⟩

variable {schema : Schema} {options : Options} {fields : List Field} {term term' : String}

/-! ### Failures -/

/-- The term has no part in a failure. -/
theorem build_eq_error_congr (term term' : String) {e : SearchError} :
    build schema options fields term = .error e ↔
      build schema options fields term' = .error e := by
  rw [build_eq_error_iff_candidates, build_eq_error_iff_candidates]

theorem exists_build_congr (built : ∃ p, build schema options fields term = .ok p)
    (term' : String) : ∃ p, build schema options fields term' = .ok p := by
  cases built' : build schema options fields term' with
  | ok p' => exact ⟨p', rfl⟩
  | error e =>
    obtain ⟨p, built⟩ := built
    cases built.symm.trans ((build_eq_error_congr term' term).mp built')

/-! ### Shapes -/

theorem withoutNeedles_comparison (options : Options) (term : String) (candidate : Candidate) :
    (comparison options term candidate).withoutNeedles =
      comparison options "" ⟨candidate.value.withoutNeedles, candidate.isNullable⟩ := by
  obtain ⟨value, isNullable⟩ := candidate
  cases ignored : options.ignoreCase <;> cases isNullable <;>
    simp [comparison, ignored, Expr.withoutNeedles]

private theorem withoutNeedles_foldl_or (tests : List Expr) (first : Expr) :
    (tests.foldl .or first).withoutNeedles =
      (tests.map Expr.withoutNeedles).foldl .or first.withoutNeedles := by
  induction tests generalizing first with
  | nil => rfl
  | cons test rest ih =>
    rw [List.foldl_cons, ih]
    rfl

theorem withoutNeedles_anyOf {tests : List Expr} {body : Expr} (joined : anyOf tests = some body) :
    anyOf (tests.map Expr.withoutNeedles) = some body.withoutNeedles := by
  cases tests with
  | nil => cases joined
  | cons first rest =>
    obtain rfl := Option.some.inj joined
    rw [withoutNeedles_foldl_or]
    rfl

theorem sameButNeedles_of_build {p p' : Predicate}
    (built : build schema options fields term = .ok p)
    (built' : build schema options fields term' = .ok p') : p.SameButNeedles p' := by
  obtain ⟨found, gathered, param, joined⟩ := build_eq_ok_iff.mp built
  obtain ⟨param', joined'⟩ := joined_of_build built' gathered
  refine ⟨param.trans param'.symm, ?_⟩
  -- Without their needles the tests of a candidate are the same for every term.
  have bare := withoutNeedles_anyOf joined
  have bare' := withoutNeedles_anyOf joined'
  rw [List.map_map] at bare bare'
  have tests : Expr.withoutNeedles ∘ comparison options (options.fold term) =
      Expr.withoutNeedles ∘ comparison options (options.fold term') := by
    funext candidate
    simp only [Function.comp_apply, withoutNeedles_comparison]
  rw [tests, bare'] at bare
  exact (Option.some.inj bare).symm

/-! ### Needles -/

theorem needles_comparison (options : Options) (term : String) (candidate : Candidate) :
    (comparison options term candidate).needles = fillSlots candidate.slots term := by
  obtain ⟨value, isNullable⟩ := candidate
  have sought : fillSlots [none] term = [term] := rfl
  cases ignored : options.ignoreCase <;> cases isNullable <;>
    simp [comparison, ignored, Candidate.slots, Expr.needles, sought]

private theorem needles_foldl_or (tests : List Expr) (first : Expr) :
    (tests.foldl .or first).needles = first.needles ++ tests.flatMap Expr.needles := by
  induction tests generalizing first with
  | nil => simp
  | cons test rest ih => simp [ih, Expr.needles]

theorem needles_of_build {p : Predicate} {found : List Candidate}
    (built : build schema options fields term = .ok p)
    (gathered : candidates schema options fields = .ok found) :
    p.body.needles = fillSlots (found.flatMap Candidate.slots) (options.fold term) := by
  obtain ⟨-, joined⟩ := joined_of_build built gathered
  have tests : p.body.needles =
      (found.map (comparison options (options.fold term))).flatMap Expr.needles := by
    cases mapped : found.map (comparison options (options.fold term)) with
    | nil =>
      rw [mapped] at joined
      cases joined
    | cons first rest =>
      rw [mapped] at joined
      obtain body := Option.some.inj joined
      rw [← body, needles_foldl_or, List.flatMap_cons]
  rw [tests, List.flatMap_map]
  simp only [needles_comparison, fillSlots, List.map_flatMap]

/-- Members hold no needles, and fields only their own. -/
theorem needles_of_mem_candidates {found : List Candidate} {candidate : Candidate}
    (plain : ∀ field ∈ fields, field.body.needles = [])
    (gathered : candidates schema options fields = .ok found) (member : candidate ∈ found) :
    candidate.value.needles = [] := by
  rw [candidates] at gathered
  split at gathered
  · obtain rfl := Except.ok.inj gathered
    obtain ⟨m, -, rfl⟩ := List.mem_map.mp member
    simp only [candidateOfMember]
    split <;> rfl
  · obtain ⟨field, given, made⟩ := exists_of_mem_right (mapM_eq_ok_iff.mp gathered) member
    obtain ⟨resolved, -, -, rfl⟩ := candidateOfField_eq_ok_iff.mp made
    rw [Field.bind, Expr.needles_rename, plain field given]

/-- Where the candidates hold no needles the term is sought once in each, and nothing else is. -/
theorem fillSlots_flatMap_slots {found : List Candidate}
    (plain : ∀ candidate ∈ found, candidate.value.needles = []) (term : String) :
    fillSlots (found.flatMap Candidate.slots) term = List.replicate found.length term := by
  induction found with
  | nil => rfl
  | cons candidate rest ih =>
    obtain ⟨here, later⟩ := List.forall_mem_cons.mp plain
    have sought : candidate.slots = [none] := by simp [Candidate.slots, here]
    rw [List.flatMap_cons, fillSlots_append, ih later, sought]
    rfl

/-! ### Searches -/

/-- If the predicates of a search can be built, so can those of one with as many terms, and they
differ from them in their needles alone. -/
theorem exists_ofQuery_of_length_eq {fields : Option (List Field)} {text text' : Option String}
    {predicates : List Predicate}
    (asMany : (queryTerms text options).length = (queryTerms text' options).length)
    (asked : ofQuery schema text options fields = .ok predicates) :
    ∃ predicates', ofQuery schema text' options fields = .ok predicates' ∧
      List.Forall₂ SameButNeedles predicates predicates' := by
  simp only [ofQuery_eq_mapM] at asked ⊢
  by_cases nothing : fields = some []
  · rw [if_pos nothing] at asked
    obtain rfl := Except.ok.inj asked
    exact ⟨[], if_pos nothing, .nil⟩
  · simp only [if_neg nothing, mapM_eq_ok_iff] at asked ⊢
    -- The terms are taken in pairs, as there are as many of the ones as of the others.
    generalize queryTerms text options = terms at asked asMany
    generalize queryTerms text' options = terms' at asMany ⊢
    induction asked generalizing terms' with
    | nil =>
      obtain rfl := List.length_eq_zero_iff.mp asMany.symm
      exact ⟨[], .nil, .nil⟩
    | cons built _ ih =>
      cases terms' with
      | nil => cases asMany
      | cons term' rest' =>
        obtain ⟨p', built'⟩ := exists_build_congr ⟨_, built⟩ term'
        obtain ⟨predicates', others, same⟩ := ih rest' (Nat.succ.inj asMany)
        have pair := sameButNeedles_of_build built built'
        exact ⟨p' :: predicates', .cons built' others, .cons pair same⟩

/-- The places that a search keeps for a term among its needles are the same for every query. -/
theorem exists_slots (schema : Schema) (options : Options) (fields : Option (List Field)) :
    ∃ slots, ∀ text predicates, ofQuery schema text options fields = .ok predicates →
      predicates.flatMap (fun p => p.body.needles) =
        (queryTerms text options).flatMap (fillSlots slots) := by
  by_cases nothing : fields = some []
  · refine ⟨[], fun text predicates asked => ?_⟩
    rw [ofQuery_eq_mapM, if_pos nothing] at asked
    obtain rfl := Except.ok.inj asked
    simp [fillSlots]
  · cases gathered : candidates schema options (fields.getD []) with
    | error e =>
      refine ⟨[], fun text predicates asked => ?_⟩
      rw [ofQuery_eq_mapM, if_neg nothing, mapM_eq_ok_iff] at asked
      refine (flatMap_eq_of_forall₂ asked fun term _ p built => ?_).symm
      obtain ⟨found, gathered', -⟩ := build_eq_ok_iff.mp built
      cases gathered.symm.trans gathered'
    | ok found =>
      refine ⟨found.flatMap Candidate.slots, fun text predicates asked => ?_⟩
      rw [ofQuery_eq_mapM, if_neg nothing, mapM_eq_ok_iff] at asked
      refine (flatMap_eq_of_forall₂ asked fun term member p built => ?_).symm
      rw [needles_of_build built gathered]
      cases text with
      | none => cases member
      | some text => rw [fold_eq_self_of_mem_splitTerms member]

end Predicate

end RecordSearch
