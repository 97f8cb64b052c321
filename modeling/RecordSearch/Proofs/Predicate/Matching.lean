import RecordSearch.Predicate
import RecordSearch.Proofs.Outcome

/-!
# What a built predicate accepts

The predicate of a term accepts a record if the folded text of some candidate holds the folded
term. The guard of a candidate that may be absent decides nothing here: what is absent has no text.

## Main results

`build_eq_error_iff_candidates`: when the predicate of a term cannot be built, whatever the term is.
`test_of_build`: the test of a predicate, candidate by candidate.
`test_of_build_nil`: the same for the eligible members of a record type.
-/
namespace RecordSearch

namespace Operand

theorem searchable?_upper (operand : Operand) :
    operand.upper.searchable? = operand.searchable?.map Text.upper := by
  unfold upper
  split
  next s found =>
    rw [found]
    rfl
  next found =>
    rw [found]
    rfl

theorem contains_eq_any (operand : Operand) (needle : String) :
    operand.contains needle = operand.searchable?.any (Text.contains · needle) := by
  unfold contains
  split
  next s found => simp [found]
  next found => simp [found]

theorem searchable?_of_isAbsent {operand : Operand} (absent : operand.isAbsent = true) :
    operand.searchable? = none := by
  cases operand with
  | value v => cases v <;> simp_all [isAbsent, Value.isAbsent, searchable?]
  | root => rfl
  | text s => simp [isAbsent] at absent
  | truth b => rfl

end Operand

/-- The text that a search sees of a member of a record: of a string member its string, and of any
other the text of whatever value it has. -/
def Member.text? (m : Member) (options : Options) (record : Record) : Option String :=
  (if m.ty.isString then (record m.name).asString? else (record m.name).toText?).map options.fold

namespace Predicate

variable {schema : Schema} {options : Options} {fields : List Field} {term : String}

/-- The test of a candidate: its folded text holds the term. -/
theorem test_comparison (options : Options) (term : String) (candidate : Candidate)
    (placeholder : String) (record : Record) :
    (comparison options term candidate).test placeholder record =
      ((candidate.value.eval placeholder record).searchable?.map options.fold).any
        (Text.contains · term) := by
  have folded : ((if options.ignoreCase then Expr.upper candidate.value
      else candidate.value).eval placeholder record).searchable? =
        (candidate.value.eval placeholder record).searchable?.map options.fold := by
    by_cases ignored : options.ignoreCase = true
    · have same : options.fold = Text.upper := funext fun s => by simp [Options.fold, ignored]
      simp [ignored, Expr.eval, Operand.searchable?_upper, same]
    · have same : options.fold = id := funext fun s => by simp [Options.fold, ignored]
      simp [ignored, same]
  by_cases guarded : candidate.isNullable = true
  · -- The guard fails only where there is no text to search.
    simp only [comparison, guarded, if_true, Expr.test_and]
    simp only [Expr.test, Expr.eval, Operand.isTrue, Operand.contains_eq_any, folded]
    cases absent : (candidate.value.eval placeholder record).isAbsent with
    | true => simp [Operand.searchable?_of_isAbsent absent]
    | false => rfl
  · simp only [comparison, guarded, Bool.false_eq_true, if_false]
    simp only [Expr.test, Expr.eval, Operand.isTrue, Operand.contains_eq_any, folded]

private theorem test_foldl_or (tests : List Expr) (first : Expr) (placeholder : String)
    (record : Record) :
    (tests.foldl .or first).test placeholder record =
      (first.test placeholder record || tests.any fun test => test.test placeholder record) := by
  induction tests generalizing first with
  | nil => simp
  | cons test rest ih => simp [ih, Bool.or_assoc]

theorem test_anyOf {tests : List Expr} {body : Expr} (joined : anyOf tests = some body)
    (placeholder : String) (record : Record) :
    body.test placeholder record = tests.any fun test => test.test placeholder record := by
  cases tests with
  | nil => simp [anyOf] at joined
  | cons first rest =>
    rw [anyOf, Option.some.injEq] at joined
    rw [← joined, test_foldl_or, List.any_cons]

/-- A field is a candidate if it resolves to a string. -/
theorem candidateOfField_eq_ok_iff {field : Field} {candidate : Candidate} :
    candidateOfField schema field = .ok candidate ↔
      ∃ resolved, (field.bind builtParam).resolve schema builtParam = .ok resolved ∧
        resolved.ty = .string ∧ candidate = ⟨field.bind builtParam, resolved.isNullable⟩ := by
  rw [candidateOfField, bind_eq_ok_iff]
  refine exists_congr fun resolved => and_congr_right fun _ => ?_
  rw [← MemberType.isString_iff]
  by_cases string : resolved.ty.isString = true
  · rw [if_pos string, and_iff_right string]
    exact ⟨fun made => (Except.ok.inj made).symm, fun made => congrArg Except.ok made.symm⟩
  · rw [if_neg string]
    simp [string]

theorem build_eq_ok_iff {p : Predicate} :
    build schema options fields term = .ok p ↔
      ∃ found, candidates schema options fields = .ok found ∧ p.param = builtParam ∧
        anyOf (found.map (comparison options (options.fold term))) = some p.body := by
  rw [build, bind_eq_ok_iff]
  refine exists_congr fun found => and_congr_right fun _ => ?_
  -- The candidates may still be none, and then there is nothing to be the body.
  obtain ⟨param, body⟩ := p
  cases anyOf (found.map (comparison options (options.fold term))) with
  | none => simp
  | some joined =>
    simp only [pure_eq_ok, Except.ok.injEq, mk.injEq, Option.some.injEq]
    exact and_congr_left fun _ => eq_comm

theorem joined_of_build {p : Predicate} {found : List Candidate}
    (built : build schema options fields term = .ok p)
    (gathered : candidates schema options fields = .ok found) :
    p.param = builtParam ∧
      anyOf (found.map (comparison options (options.fold term))) = some p.body := by
  obtain ⟨found', gathered', joined⟩ := build_eq_ok_iff.mp built
  obtain rfl : found = found' := Except.ok.inj (gathered.symm.trans gathered')
  exact joined

/-- A predicate cannot be built where the candidates cannot be found, or there are none. -/
theorem build_eq_error_iff_candidates {e : SearchError} :
    build schema options fields term = .error e ↔
      candidates schema options fields = .error e ∨
        candidates schema options fields = .ok [] ∧
          e = .noSearchableFields schema.typeName := by
  rw [build]
  cases candidates schema options fields with
  | error e' => simp
  | ok found =>
    cases found with
    | nil => simp [anyOf, eq_comm]
    | cons first rest => simp [anyOf]

theorem test_of_build {p : Predicate} {found : List Candidate}
    (built : build schema options fields term = .ok p)
    (gathered : candidates schema options fields = .ok found) (record : Record) :
    p.body.test p.param record = found.any fun candidate =>
      ((candidate.value.eval builtParam record).searchable?.map options.fold).any
        (Text.contains · (options.fold term)) := by
  obtain ⟨param, joined⟩ := joined_of_build built gathered
  rw [param, test_anyOf joined, List.any_map]
  congr 1
  funext candidate
  rw [Function.comp, test_comparison]

/-! ### The eligible members -/

theorem candidates_nil (schema : Schema) (options : Options) :
    candidates schema options [] = .ok ((schema.selected options.mode).map candidateOfMember) :=
  rfl

theorem searchable?_candidateOfMember (m : Member) (options : Options) (record : Record) :
    ((candidateOfMember m).value.eval builtParam record).searchable?.map options.fold =
      m.text? options record := by
  simp only [candidateOfMember, Member.text?]
  split
  · simp only [Expr.eval, if_true, Operand.member]
    cases record m.name <;> rfl
  · simp only [Expr.eval, if_true, Operand.member, Operand.toText]
    cases (record m.name).toText? <;> rfl

/-- Without an eligible member no term has a predicate. -/
theorem build_nil_eq_error (none : schema.selected options.mode = []) (term : String) :
    build schema options [] term = .error (.noSearchableFields schema.typeName) := by
  rw [build, candidates_nil, none]
  rfl

theorem exists_build_nil (some : schema.selected options.mode ≠ []) (term : String) :
    ∃ p, build schema options [] term = .ok p := by
  rw [build, candidates_nil]
  cases selected : schema.selected options.mode with
  | nil => exact absurd selected some
  | cons m rest => exact ⟨_, rfl⟩

/-- What the predicate of a term accepts if the eligible members are searched. -/
theorem test_of_build_nil {p : Predicate} (built : build schema options [] term = .ok p)
    (record : Record) :
    p.body.test p.param record = (schema.selected options.mode).any fun m =>
      (m.text? options record).any (Text.contains · (options.fold term)) := by
  rw [test_of_build built (candidates_nil schema options), List.any_map]
  congr 1
  funext m
  rw [Function.comp, searchable?_candidateOfMember]

end Predicate

end RecordSearch
