import RecordSearch.Proofs.Expr.Resolution
import RecordSearch.Proofs.Sql.Translation

/-!
# Missing columns

A member that is missing on a row contributes no match there, with one exception: the text of a
truth value is never missing. A database without the truth value shows `false`, so its guard, which
looks at that text and not at the column, lets the row pass.

## Main results

`selects_of_missing`: what a comparison selects among the rows that lack its column.
`selects_missing_flag`: a search for `false` selects a row without the truth value.
-/
namespace RecordSearch

/-- A field that follows a path of members from the record, converted to text or not. -/
def Field.IsMemberPath (field : Field) : Prop :=
  ∃ names, field.body = (Expr.param field.param).path names ∨
    field.body = .toText ((Expr.param field.param).path names)

namespace Expr

theorem rename_path (old new : String) (names : List String) (start : Expr) :
    (start.path names).rename old new = (start.rename old new).path names := by
  induction names generalizing start with
  | nil => rfl
  | cons name rest ih => exact ih (.member start name)

theorem path_cases (start : Expr) (names : List String) :
    start.path names = start ∨ ∃ target name, start.path names = .member target name := by
  rcases List.eq_nil_or_concat names with rfl | ⟨before, last, rfl⟩
  · exact Or.inl rfl
  · exact Or.inr ⟨start.path before, last, by simp [path]⟩

end Expr

theorem Field.IsMemberPath.bind {field : Field} (path : field.IsMemberPath) (new : String) :
    ∃ names, field.bind new = (Expr.param new).path names ∨
      field.bind new = .toText ((Expr.param new).path names) := by
  have renamed : (Expr.param field.param).rename field.param new = .param new := by
    simp [Expr.rename]
  obtain ⟨names, plain | converted⟩ := path
  · exact ⟨names, Or.inl (by rw [Field.bind, plain, Expr.rename_path, renamed])⟩
  · refine ⟨names, Or.inr ?_⟩
    rw [Field.bind, converted, Expr.rename, Expr.rename_path, renamed]

namespace Sql

open Predicate (builtParam)

variable {schema : Schema} {options : Options} {fields : List Field} {term : String}
  {found : List Candidate} {candidate : Candidate} {row : Row}

/-- The column of an expression that is a member, or the text of one. -/
inductive HasColumn : Expr → Option String → String → Prop
  | plain (target : Expr) (name : String) :
      HasColumn (.member target name) (qualifier target) name
  | shown (target : Expr) (name : String) :
      HasColumn (.toText (.member target name)) (qualifier target) name

/-- Whether an expression is the text of a declared truth value. -/
def ShowsTruth (schema : Schema) (value : Expr) : Prop :=
  ∃ target name resolved, value = .toText (.member target name) ∧
    (Expr.member target name).resolve schema builtParam = .ok resolved ∧ resolved.ty = .bool

private theorem hasColumn_of_field {field : Field} (path : field.IsMemberPath)
    (made : Predicate.candidateOfField schema field = .ok candidate) :
    ∃ table name, HasColumn candidate.value table name := by
  obtain ⟨resolved, resolves, string, rfl⟩ := Predicate.candidateOfField_eq_ok_iff.mp made
  obtain ⟨names, plain | converted⟩ := path.bind builtParam
  · rw [plain] at resolves ⊢
    rcases Expr.path_cases (.param builtParam) names with start | ⟨target, name, last⟩
    · -- The record itself resolves, but to no string.
      rw [start] at resolves
      obtain ⟨-, rfl⟩ := Expr.resolve_param_eq_ok_iff.mp resolves
      cases string
    · rw [last]
      exact ⟨_, _, .plain target name⟩
  · rw [converted] at resolves ⊢
    rcases Expr.path_cases (.param builtParam) names with start | ⟨target, name, last⟩
    · -- Its text does not resolve at all.
      rw [start] at resolves
      exact absurd rfl (Expr.resolve_toText_eq_ok_iff.mp resolves).1
    · rw [last]
      exact ⟨_, _, .shown target name⟩

/-- A candidate that is not computed has a column. -/
theorem exists_hasColumn (paths : ∀ field ∈ fields, field.IsMemberPath)
    (gathered : Predicate.candidates schema options fields = .ok found)
    (inside : candidate ∈ found) : ∃ table name, HasColumn candidate.value table name := by
  cases fields with
  | nil =>
    -- Without fields the candidates are the eligible members.
    rw [Predicate.candidates_nil, Except.ok.injEq] at gathered
    rw [← gathered] at inside
    obtain ⟨m, -, rfl⟩ := List.mem_map.mp inside
    by_cases string : m.ty.isString = true
    · rw [Predicate.candidateOfMember, if_pos string]
      exact ⟨_, _, .plain _ _⟩
    · rw [Predicate.candidateOfMember, if_neg string]
      exact ⟨_, _, .shown _ _⟩
  | cons first rest =>
    obtain ⟨field, member, made⟩ := exists_of_mem_right (mapM_eq_ok_iff.mp gathered) inside
    exact hasColumn_of_field (paths field member) made

/-- The text that a candidate has on a row without its column. -/
theorem text?_of_missing {value : Expr} {table : Option String} {name : String} {clause : Clause}
    (column : HasColumn value table name)
    (made : Clause.ofExpr schema builtParam value = .ok clause) (missing : row table name = .null) :
    clause.isOperand = true ∧
      ((ShowsTruth schema value ∧ (clause.reading.eval row).text? = some "false") ∨
        (¬ ShowsTruth schema value ∧ (clause.reading.eval row).text? = none)) := by
  cases column with
  | plain target name =>
    obtain ⟨-, -, -, rfl⟩ := Clause.ofExpr_member_eq_ok_iff.mp made
    refine ⟨rfl, Or.inr ⟨?_, ?_⟩⟩
    · rintro ⟨_, _, _, other, -⟩
      cases other
    · change (row (qualifier target) name).text? = none
      rw [missing]
      rfl
  | shown target name =>
    obtain ⟨resolved, inner, resolves, column, -, rfl⟩ := Clause.ofExpr_toText_eq_ok_iff.mp made
    obtain ⟨-, -, -, rfl⟩ := Clause.ofExpr_member_eq_ok_iff.mp column
    refine ⟨Clause.isOperand_shown _ _ _, ?_⟩
    rw [Clause.text?_shown, missing]
    -- `CASE` takes its `ELSE` on a missing value; every other text of one is missing.
    by_cases truth : resolved.ty = .bool
    · exact Or.inl ⟨⟨target, name, resolved, rfl, resolves, truth⟩, by rw [if_pos truth]; rfl⟩
    · refine Or.inr ⟨?_, by rw [if_neg truth]; rfl⟩
      rintro ⟨target', name', resolved', same, resolves', truth'⟩
      cases same
      rw [resolves, Except.ok.injEq] at resolves'
      exact truth (resolves' ▸ truth')

/-- A predicate with a clause has one for the comparison of each candidate. -/
theorem exists_clause_of_candidate {p : Predicate} {whole : Clause}
    (built : Predicate.build schema options fields term = .ok p)
    (translated : Clause.ofExpr schema p.param p.body = .ok whole)
    (gathered : Predicate.candidates schema options fields = .ok found)
    (inside : candidate ∈ found) :
    ∃ clause, Clause.ofExpr schema builtParam
      (Predicate.comparison options (options.fold term) candidate) = .ok clause := by
  obtain ⟨param, joined⟩ := Predicate.joined_of_build built gathered
  rw [param] at translated
  obtain ⟨first, others, each, -⟩ := Clause.ofExpr_anyOf joined translated
  obtain ⟨clause, -, made⟩ := exists_of_mem_left (List.forall₂_map_left_iff.mp each) inside
  exact ⟨clause, made⟩

theorem foldColumn_false (options : Options) :
    foldColumn options "false" = options.fold "false" := by
  refine foldColumn_eq_fold fun _ c inside => ?_
  have ascii : ("false".toList.all fun c => decide (c.toNat < 0x80)) = true := rfl
  exact of_decide_eq_true (List.all_eq_true.mp ascii c inside)

/-- On a row without the column of a candidate, its comparison is true in one case only: the
candidate is the text of a truth value, and `false` holds the term. -/
theorem selects_of_missing {p : Predicate} {whole : Clause}
    (paths : ∀ field ∈ fields, field.IsMemberPath)
    (built : Predicate.build schema options fields term = .ok p)
    (translated : Clause.ofExpr schema p.param p.body = .ok whole)
    (gathered : Predicate.candidates schema options fields = .ok found)
    (inside : candidate ∈ found)
    (missing : ∀ table name, HasColumn candidate.value table name → row table name = .null) :
    ∃ clause condition,
      Clause.ofExpr schema builtParam
          (Predicate.comparison options (options.fold term) candidate) = .ok clause ∧
        readCondition clause.text clause.params = some condition ∧
        (condition.selects row = true ↔ ShowsTruth schema candidate.value ∧
          Text.contains (options.fold "false") (options.fold term) = true) := by
  obtain ⟨clause, made⟩ := exists_clause_of_candidate built translated gathered inside
  refine ⟨clause, clause.reading, made, readCondition_text clause, ?_⟩
  rw [Clause.ofExpr_comparison] at made
  obtain ⟨value, valued, rfl⟩ := map_eq_ok_iff.mp made
  obtain ⟨table, name, column⟩ := exists_hasColumn paths gathered inside
  obtain ⟨operand, text⟩ := text?_of_missing column valued (missing table name column)
  rw [Clause.selects_comparison operand]
  rcases text with ⟨truth, shown⟩ | ⟨noTruth, shown⟩
  · rw [shown, Option.map_some, foldColumn_false, and_iff_right truth]
    rfl
  · rw [shown]
    simp [noTruth]

/-- A table with one truth value, which may be missing. -/
def flagged : Schema := ⟨"Flagged", 0, fun _ => [(Member.ofType "flag" .bool).nullable]⟩

/-- The text of the truth value, as a search of all members sees it. -/
def flagText : Candidate := ⟨.toText (.member (.param builtParam) "flag"), true⟩

theorem selects_of_missing_flag :
    ∃ clause condition,
      Clause.ofExpr flagged builtParam
          (Predicate.comparison ⟨.all, true⟩ (Options.fold ⟨.all, true⟩ "als") flagText) =
            .ok clause ∧
        readCondition clause.text clause.params = some condition ∧
        (condition.selects (fun _ _ => .null) = true ↔ ShowsTruth flagged flagText.value ∧
          Text.contains (Options.fold ⟨.all, true⟩ "false") (Options.fold ⟨.all, true⟩ "als") =
            true) := by
  have noFields : ∀ field ∈ ([] : List Field), field.IsMemberPath := by simp
  have gathered : Predicate.candidates flagged ⟨.all, true⟩ [] = .ok [flagText] := rfl
  exact selects_of_missing noFields rfl rfl gathered List.mem_cons_self fun _ _ _ => rfl

/-- A search for `false` selects a row without the truth value; in memory a record without it does
not pass. -/
theorem selects_missing_flag :
    ∃ p clause condition,
      Predicate.build flagged ⟨.all, false⟩ [] "false" = .ok p ∧
        Predicate.candidates flagged ⟨.all, false⟩ [] = .ok [flagText] ∧
        flagText.isNullable = true ∧
        HasColumn flagText.value none "flag" ∧
        p.body = Predicate.comparison ⟨.all, false⟩ "false" flagText ∧
        Clause.ofExpr flagged p.param p.body = .ok clause ∧
        readCondition clause.text clause.params = some condition ∧
        condition.selects (fun _ _ => .null) = true ∧
        p.body.test p.param (fun _ => .absent) = false := by
  refine ⟨⟨builtParam, _⟩, _, _, rfl, rfl, rfl, .shown _ _, rfl, rfl, readCondition_text _, ?_, ?_⟩
  · decide
  · decide

end Sql

end RecordSearch
