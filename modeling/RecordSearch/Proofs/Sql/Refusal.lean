import RecordSearch.Proofs.Source.Failure

/-!
# Searches that a table refuses

A table can be searched for the eligible members of a record type unless there are none, or one of
them has a text in memory that the database does not write: that of a floating-point number or of a
nested record. The first such member decides the error.

## Main result

`searchWith_refusal`: when a table refuses a search, why, and how many clauses are added otherwise.
-/
namespace RecordSearch

/-- Whether a type is that of floating-point numbers or of nested records. -/
def MemberType.isFloatOrRecord : MemberType → Bool
  | float => true
  | record _ => true
  | _ => false

namespace Sql

open Predicate (builtParam candidateOfMember)

/-- Why the values of a type have no text in the database, if they have none. -/
def Reason.ofType? : MemberType → Option Reason
  | .float => some .floatText
  | .record _ => some .recordText
  | .collection => some .collectionText
  | _ => none

/-! ### Members -/

namespace Clause

variable {schema : Schema} {m : Member}

theorem exists_ofExpr_candidateOfMember (distinct : (schema.rootMembers.map Member.name).Nodup)
    (inside : m ∈ schema.rootMembers) (shows : hasText m.ty = true) :
    ∃ value, ofExpr schema builtParam (candidateOfMember m).value = .ok value := by
  have declared : (Expr.member (.param builtParam) m.name).resolve schema builtParam =
      .ok ⟨m.ty, m.isNullable⟩ := Expr.resolve_member_of_mem distinct inside
  have column : ofExpr schema builtParam (.member (.param builtParam) m.name) =
      .ok (.column none m.name) := by
    refine ofExpr_member_eq_ok_iff.mpr ⟨_, declared, ?_, rfl⟩
    cases ty : m.ty <;> simp [ty, hasText, MemberType.table?] at shows ⊢
  by_cases string : m.ty.isString = true
  · exact ⟨_, by rw [candidateOfMember, if_pos string, column]⟩
  · rw [candidateOfMember, if_neg string]
    exact ⟨_, ofExpr_toText_eq_ok_iff.mpr ⟨_, _, declared, column, shows, rfl⟩⟩

/-- A member without a text in the database is named by its text in memory. -/
theorem ofExpr_candidateOfMember_eq_error (distinct : (schema.rootMembers.map Member.name).Nodup)
    (inside : m ∈ schema.rootMembers) {reason : Reason}
    (unshown : Reason.ofType? m.ty = some reason) :
    ofExpr schema builtParam (candidateOfMember m).value =
      .error (.unsupported ("c." ++ m.name ++ ".to_string()") reason) := by
  have declared : (Expr.member (.param builtParam) m.name).resolve schema builtParam =
      .ok ⟨m.ty, m.isNullable⟩ := Expr.resolve_member_of_mem distinct inside
  have string : ¬ m.ty.isString = true := by
    intro string
    rw [MemberType.isString_iff.mp string] at unshown
    cases unshown
  have named : (Expr.toText (.member (.param builtParam) m.name)).text =
      "c." ++ m.name ++ ".to_string()" := rfl
  rw [candidateOfMember, if_neg string, ofExpr, resolveForSql, declared, ← named]
  cases ty : m.ty <;> simp_all [Reason.ofType?, Except.mapError]

end Clause

variable {α : Type} [Searchable α] {options : Options} {text : String} {e : SqlError}

/-! ### Searches -/

/-- Whatever the terms of a query are, a table refuses them for the eligible members: for want of
one, or for the first that has no clause. -/
theorem searchWith_eq_error_iff (query : Query α) (asked : isBlankQuery text = false) :
    (searchWith query (some text) options).result = .error e ↔
      ((Searchable.schema α).selected options.mode = [] ∧
          e = .search (.noSearchableFields (Searchable.schema α).typeName)) ∨
        ((Searchable.schema α).selected options.mode).mapM (fun m =>
          Clause.ofExpr (Searchable.schema α) builtParam (candidateOfMember m).value) =
            .error e := by
  obtain ⟨term, rest, terms⟩ : ∃ term rest, queryTerms (some text) options = term :: rest := by
    refine List.exists_cons_of_ne_nil fun none => ?_
    rw [splitTerms_eq_nil_iff.mp none] at asked
    cases asked
  -- The first term fails as all of them do.
  rw [searchWith, result_compile_eq_narrowByTerms, if_neg nofun, terms,
    Query.refusesTogether.cons, result_narrowByTerms_singleton]
  change ((Predicate.build (Searchable.schema α) options [] term).mapError .search >>= fun p =>
    (Query.narrow query p).result) = _ ↔ _
  by_cases none : (Searchable.schema α).selected options.mode = []
  · rw [Predicate.build_nil_eq_error none, none]
    simp [Except.mapError, eq_comm]
  · obtain ⟨p, built⟩ := Predicate.exists_build_nil none term
    rw [built, Except.mapError, ok_bind, Query.result_narrow, map_eq_error_iff,
      Clause.ofExpr_eq_error_iff_of_build built (Predicate.candidates_nil _ _), List.mapM_map]
    simp only [none, false_and, false_or]
    rfl

/-- A search that a table takes adds a clause for every term. -/
theorem exists_clauses_of_searchWith {query found : Query α}
    (returned : (searchWith query (some text) options).result = .ok found) :
    ∃ added : List Clause, added.length = (splitTerms text options).length ∧
      found = { query with clauses := query.clauses ++ added } := by
  obtain ⟨predicates, asked, narrowed⟩ := compile_eq_ok_iff.mp returned
  obtain ⟨added, made, rfl⟩ := Query.narrowAll_eq_ok_iff.mp narrowed
  rw [Predicate.ofQuery_eq_mapM, if_neg nofun, mapM_eq_ok_iff] at asked
  exact ⟨added, by rw [← made.length_eq, ← asked.length_eq]; rfl, rfl⟩

/-- An eligible member is a string in a strict search. In a search of all members it has a text in
the database unless it is a floating-point number or a record. -/
theorem hasText_of_selected {schema : Schema} {m : Member} {mode : Mode}
    (selected : m ∈ schema.selected mode) :
    Clause.hasText m.ty = !m.ty.isFloatOrRecord ∧
      (mode = .strict → m.ty.isFloatOrRecord = false) := by
  have single := isCollection_of_selected selected
  refine ⟨?_, ?_⟩
  · cases ty : m.ty <;> first | rfl | simp [ty, MemberType.isCollection] at single
  · rintro rfl
    rw [MemberType.isString_iff.mp (isString_of_selected selected)]
    rfl

/-- The clauses of the eligible members can be made if none of them is a floating-point number or a
record. -/
theorem exists_mapM_candidateOfMember {schema : Schema} {mode : Mode}
    (distinct : (schema.rootMembers.map Member.name).Nodup)
    (shown : ∀ m ∈ schema.selected mode, m.ty.isFloatOrRecord = false) :
    ∃ clauses, (schema.selected mode).mapM (fun m =>
      Clause.ofExpr schema builtParam (candidateOfMember m).value) = .ok clauses := by
  refine exists_mapM_eq_ok fun m selected => ?_
  refine Clause.exists_ofExpr_candidateOfMember distinct (mem_rootMembers_of_selected selected) ?_
  rw [(hasText_of_selected selected).1, shown m selected]
  rfl

/-- Otherwise the first that is one decides the error. -/
theorem mapM_candidateOfMember_eq_error {schema : Schema} {mode : Mode} {m : Member}
    (distinct : (schema.rootMembers.map Member.name).Nodup)
    (first : (schema.selected mode).find? (fun m => m.ty.isFloatOrRecord) = some m) :
    ∃ reason, Reason.ofType? m.ty = some reason ∧
      (schema.selected mode).mapM (fun m =>
          Clause.ofExpr schema builtParam (candidateOfMember m).value) =
        .error (.unsupported ("c." ++ m.name ++ ".to_string()") reason) := by
  obtain ⟨unshown, before, after, split, shown⟩ := List.find?_eq_some_iff_append.mp first
  obtain ⟨reason, why⟩ : ∃ reason, Reason.ofType? m.ty = some reason := by
    cases ty : m.ty <;> simp [ty, MemberType.isFloatOrRecord, Reason.ofType?] at unshown ⊢
  have declared : ∀ other ∈ before ++ m :: after, other ∈ schema.selected mode := by
    rw [split]
    exact fun other inside => inside
  refine ⟨reason, why, mapM_eq_error_iff.mpr ⟨before, m, after, split, ?_, ?_⟩⟩
  · -- What stands before the first has a clause.
    intro earlier inside
    have selected := declared earlier (List.mem_append_left _ inside)
    refine Clause.exists_ofExpr_candidateOfMember distinct (mem_rootMembers_of_selected selected) ?_
    rw [(hasText_of_selected selected).1]
    exact shown earlier inside
  · have inside := mem_rootMembers_of_selected (declared m (by simp))
    exact Clause.ofExpr_candidateOfMember_eq_error distinct inside why

section

variable (distinct : ((Searchable.schema α).rootMembers.map Member.name).Nodup) (query : Query α)
  (asked : isBlankQuery text = false)
include distinct asked

/-- A search of members that have clauses fails for want of an eligible one, if at all. -/
theorem unselected_of_searchWith
    (shown : ∀ m ∈ (Searchable.schema α).selected options.mode, m.ty.isFloatOrRecord = false)
    (failed : (searchWith query (some text) options).result = .error e) :
    (Searchable.schema α).selected options.mode = [] ∧
      e = .search (.noSearchableFields (Searchable.schema α).typeName) := by
  obtain ⟨clauses, made⟩ := exists_mapM_candidateOfMember distinct shown
  rcases (searchWith_eq_error_iff query asked).mp failed with none | unmade
  · exact none
  · cases made.symm.trans unmade

theorem searchWith_eq_error_of_find? {m : Member}
    (first : ((Searchable.schema α).selected options.mode).find?
      (fun m => m.ty.isFloatOrRecord) = some m) :
    ∃ reason, Reason.ofType? m.ty = some reason ∧
      (searchWith query (some text) options).result =
        .error (.unsupported ("c." ++ m.name ++ ".to_string()") reason) := by
  obtain ⟨reason, why, unmade⟩ := mapM_candidateOfMember_eq_error distinct first
  exact ⟨reason, why, (searchWith_eq_error_iff query asked).mpr (Or.inr unmade)⟩

end

/-- A search of the eligible members fails on a table exactly if there are none, or if all members
are searched and one of them is a floating-point number or a record. The first such member is then
named, as the text of a member of the record. A search that does not fail adds a clause for every
term. -/
theorem searchWith_refusal
    (distinct : ((Searchable.schema α).rootMembers.map Member.name).Nodup) (query : Query α)
    (options : Options) (asked : isBlankQuery text = false) :
    ((∃ e, (searchWith query (some text) options).result = .error e) ↔
        (Searchable.schema α).selected options.mode = [] ∨
          options.mode = .all ∧
            ∃ m ∈ (Searchable.schema α).selected .all, m.ty.isFloatOrRecord = true) ∧
      ((Searchable.schema α).selected options.mode = [] →
        (searchWith query (some text) options).result =
          .error (.search (.noSearchableFields (Searchable.schema α).typeName))) ∧
      (options.mode = .all → ∀ m,
        ((Searchable.schema α).selected .all).find? (fun m => m.ty.isFloatOrRecord) = some m →
          ∃ reason, Reason.ofType? m.ty = some reason ∧
            (searchWith query (some text) options).result =
              .error (.unsupported ("c." ++ m.name ++ ".to_string()") reason)) ∧
      (options.mode = .strict → ∀ expr reason,
        (searchWith query (some text) options).result ≠ .error (.unsupported expr reason)) ∧
      ∀ found, (searchWith query (some text) options).result = .ok found →
        ∃ added : List Clause, added.length = (splitTerms text options).length ∧
          found = { query with clauses := query.clauses ++ added } := by
  have unselected (none : (Searchable.schema α).selected options.mode = []) :
      (searchWith query (some text) options).result =
        .error (.search (.noSearchableFields (Searchable.schema α).typeName)) :=
    (searchWith_eq_error_iff query asked).mpr (Or.inl ⟨none, rfl⟩)
  have strings (strict : options.mode = .strict) :
      ∀ m ∈ (Searchable.schema α).selected options.mode, m.ty.isFloatOrRecord = false :=
    fun m selected => (hasText_of_selected selected).2 strict
  refine ⟨⟨?_, ?_⟩, unselected, ?_, ?_, fun found => exists_clauses_of_searchWith⟩
  · rintro ⟨e, failed⟩
    by_cases shown : ∀ m ∈ (Searchable.schema α).selected options.mode,
        m.ty.isFloatOrRecord = false
    · exact Or.inl (unselected_of_searchWith distinct query asked shown failed).1
    · -- Only a search of all members meets one that is no string.
      cases mode : options.mode with
      | strict => exact absurd (strings mode) shown
      | all => exact Or.inr (by simpa [mode] using shown)
  · rintro (none | ⟨all, m, selected, unshown⟩)
    · exact ⟨_, unselected none⟩
    · obtain ⟨first, found⟩ : ∃ first, ((Searchable.schema α).selected .all).find?
          (fun m => m.ty.isFloatOrRecord) = some first :=
        Option.isSome_iff_exists.mp (List.find?_isSome.mpr ⟨m, selected, unshown⟩)
      obtain ⟨reason, -, failed⟩ :=
        searchWith_eq_error_of_find? distinct query asked (all.symm ▸ found)
      exact ⟨_, failed⟩
  · intro all m first
    exact searchWith_eq_error_of_find? distinct query asked (all.symm ▸ first)
  · intro strict expr reason failed
    cases (unselected_of_searchWith distinct query asked (strings strict) failed).2

/-- A record with a text, a weight that may be missing, and another record. -/
structure Parcel where
  label : String
  weight : Option Binary64
  sender : String

instance : Searchable Parcel where
  schema := ⟨"Parcel", 0, fun
    | 0 => [.ofType "label" .string, (Member.ofType "weight" .float).nullable,
        .ofType "sender" (.record 1)]
    | _ => [.ofType "name" .string]⟩
  record parcel
    | "label" => .string parcel.label
    | "weight" =>
      match parcel.weight with
      | some weight => .number (.float weight)
      | none => .absent
    | "sender" => .record parcel.sender fun _ => .string parcel.sender
    | _ => .absent

theorem searchWith_refusal_parcel :
    ((Searchable.schema Parcel).rootMembers.map Member.name).Nodup ∧
      isBlankQuery "to  go" = false ∧
      (∃ reason, Reason.ofType? .float = some reason ∧
        (searchWith (Query.ofTable "parcels" : Query Parcel) (some "to  go") ⟨.all, true⟩).result =
          .error (.unsupported "c.weight.to_string()" reason)) ∧
      ∃ found : Query Parcel,
        (searchWith (Query.ofTable "parcels" : Query Parcel) (some "to  go")
            ⟨.strict, true⟩).result = .ok found ∧
          found.clauses.length = 2 := by
  have distinct : ((Searchable.schema Parcel).rootMembers.map Member.name).Nodup := by decide
  have asked : isBlankQuery "to  go" = false := by decide
  obtain ⟨-, -, refused, -⟩ :=
    searchWith_refusal distinct (Query.ofTable "parcels") ⟨.all, true⟩ asked
  obtain ⟨-, -, -, -, added⟩ :=
    searchWith_refusal distinct (Query.ofTable "parcels") ⟨.strict, true⟩ asked
  obtain ⟨found, returned⟩ : ∃ found, (searchWith (Query.ofTable "parcels" : Query Parcel)
      (some "to  go") ⟨.strict, true⟩).result = .ok found := ⟨_, rfl⟩
  refine ⟨distinct, asked, ?_, found, returned, ?_⟩
  · exact refused rfl ((Member.ofType "weight" .float).nullable) rfl
  · obtain ⟨clauses, count, whole⟩ := added found returned
    rw [whole]
    exact count

end Sql

end RecordSearch
