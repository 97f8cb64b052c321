import RecordSearch.Proofs.Predicate.Fields
import RecordSearch.Proofs.Source.Narrowing

/-!
# Restricting a search to fields

The members that a search looks at by itself can be given to it as fields: a string as it is, and
anything else converted to text. Given all of them it builds the predicates that it builds without;
given some of them it finds no more.

## Main result

`searchFieldsWith_of_subset`: what becomes of a search whose fields are eligible members.
-/
namespace RecordSearch

open Predicate (builtParam)

/-- A member as a field. -/
def Member.field (m : Member) : Field :=
  if m.ty.isString then .ofName m.name else (Field.ofName m.name).intoText

/-- The eligible members as fields, in their order. -/
def Schema.selectedFields (schema : Schema) (mode : Mode) : List Field :=
  (schema.selected mode).map Member.field

theorem Member.bind_field (m : Member) :
    m.field.bind builtParam = (Predicate.candidateOfMember m).value := by
  by_cases string : m.ty.isString = true
  · simp [field, string, Predicate.candidateOfMember, Field.bind, Field.ofName, Field.ofBody,
      Expr.rename]
  · simp [field, string, Predicate.candidateOfMember, Field.bind, Field.ofName, Field.ofBody,
      Field.intoText, Expr.rename]

namespace Predicate

variable {schema : Schema} {options : Options} {term : String}

/-- A member is a string as a candidate, whatever its type, and may be absent if declared so. -/
theorem resolve_candidateOfMember {m : Member}
    (distinct : (schema.rootMembers.map Member.name).Nodup) (inside : m ∈ schema.rootMembers) :
    (candidateOfMember m).value.resolve schema builtParam = .ok ⟨.string, m.isNullable⟩ := by
  have declared : (Expr.member (.param builtParam) m.name).resolve schema builtParam =
      .ok ⟨m.ty, m.isNullable⟩ := Expr.resolve_member_of_mem distinct inside
  by_cases string : m.ty.isString = true
  · rw [candidateOfMember, if_pos string, declared, MemberType.isString_iff.mp string]
  · rw [candidateOfMember, if_neg string, Expr.resolve_toText_eq_ok_iff]
    exact ⟨by simp, _, declared, rfl⟩

/-- A member is the same candidate whether it is found or given as a field. -/
theorem candidateOfField_field {m : Member}
    (distinct : (schema.rootMembers.map Member.name).Nodup) (inside : m ∈ schema.rootMembers) :
    candidateOfField schema m.field = .ok (candidateOfMember m) := by
  refine candidateOfField_eq_ok_iff.mpr ⟨⟨.string, m.isNullable⟩, ?_, rfl, ?_⟩
  · rw [m.bind_field]
    exact resolve_candidateOfMember distinct inside
  · rw [m.bind_field]
    rfl

/-- The eligible members are the same candidates whether they are found or given. -/
theorem candidates_selectedFields (distinct : (schema.rootMembers.map Member.name).Nodup) :
    candidates schema options (schema.selectedFields options.mode) =
      candidates schema options [] := by
  by_cases none : schema.selectedFields options.mode = []
  · rw [none]
  · rw [candidates_of_ne_nil none, candidates_nil, Schema.selectedFields, mapM_eq_ok_iff,
      List.forall₂_map_left_iff, List.forall₂_map_right_iff, List.forall₂_same]
    intro m selected
    exact candidateOfField_field distinct (mem_rootMembers_of_selected selected)

theorem build_selectedFields (distinct : (schema.rootMembers.map Member.name).Nodup)
    (term : String) :
    build schema options (schema.selectedFields options.mode) term =
      build schema options [] term := by
  rw [build, build, candidates_selectedFields distinct]

/-- Fields that are eligible members have a predicate, and it passes no record that the predicate of
all eligible members does not pass. -/
theorem exists_build_of_subset {fields : List Field}
    (distinct : (schema.rootMembers.map Member.name).Nodup) (given : fields ≠ [])
    (subset : fields ⊆ schema.selectedFields options.mode) (term : String) :
    ∃ p whole, build schema options fields term = .ok p ∧
      build schema options [] term = .ok whole ∧
        ∀ record, p.body.test p.param record = true →
          whole.body.test whole.param record = true := by
  obtain ⟨first, isGiven⟩ := List.exists_mem_of_ne_nil fields given
  have some : schema.selectedFields options.mode ≠ [] := List.ne_nil_of_mem (subset isGiven)
  have each : ∀ field ∈ schema.selectedFields options.mode,
      ∃ candidate, candidateOfField schema field = .ok candidate := by
    intro field inside
    obtain ⟨m, selected, rfl⟩ := List.mem_map.mp inside
    exact ⟨_, candidateOfField_field distinct (mem_rootMembers_of_selected selected)⟩
  obtain ⟨p, built⟩ := (exists_build_iff given).mpr fun field inside => each field (subset inside)
  obtain ⟨whole, all⟩ := (exists_build_iff some).mpr each
  refine ⟨p, whole, built, build_selectedFields distinct term ▸ all, fun record passed => ?_⟩
  -- Both predicates ask each of their fields, and those of the one are among those of the other.
  rw [test_of_build_fields given built, List.any_eq_true] at passed
  rw [test_of_build_fields some all, List.any_eq_true]
  obtain ⟨field, inside, held⟩ := passed
  exact ⟨field, subset inside, held⟩

/-- A search of fields that are eligible members has its predicates, and so has a search without
fields, which passes no fewer records. -/
theorem ofQuery_of_subset {fields : List Field}
    (distinct : (schema.rootMembers.map Member.name).Nodup) (given : fields ≠ [])
    (subset : fields ⊆ schema.selectedFields options.mode) (query : Option String) :
    ∃ predicates whole, ofQuery schema query options (some fields) = .ok predicates ∧
      ofQuery schema query options none = .ok whole ∧ Admits predicates whole := by
  have each := exists_build_of_subset distinct given subset
  obtain ⟨predicates, asked⟩ : ∃ predicates,
      (queryTerms query options).mapM (build schema options fields) = .ok predicates := by
    refine exists_mapM_eq_ok fun term _ => ?_
    obtain ⟨p, -, built, -⟩ := each term
    exact ⟨p, built⟩
  have admitted : ∀ term p, build schema options fields term = .ok p →
      ∃ p', build schema options [] term = .ok p' ∧
        ∀ record, p.body.test p.param record = true → p'.body.test p'.param record = true := by
    intro term p built
    obtain ⟨p', whole, built', all, admits⟩ := each term
    obtain rfl : p = p' := Except.ok.inj (built.symm.trans built')
    exact ⟨whole, all, admits⟩
  obtain ⟨whole, all, admits⟩ := exists_mapM_admitting admitted asked
  refine ⟨predicates, whole, ?_, ?_, admits⟩
  · rw [ofQuery_eq_mapM, if_neg (by simpa using given), Option.getD_some, asked]
  · rw [ofQuery_eq_mapM, if_neg nofun, Option.getD_none, all]

end Predicate

/-- The eligible members may be given to a search as fields: all of them make the predicate of every
term what it is without fields, and any of them, in any order and however often, find among the
records only such as a search without fields finds. -/
theorem searchFieldsWith_of_subset {α : Type} [Searchable α]
    (distinct : ((Searchable.schema α).rootMembers.map Member.name).Nodup) (options : Options) :
    ((Searchable.schema α).selectedFields options.mode ≠ [] → ∀ term, ∃ p,
        Predicate.build (Searchable.schema α) options
            ((Searchable.schema α).selectedFields options.mode) term = .ok p ∧
          Predicate.build (Searchable.schema α) options [] term = .ok p) ∧
      ∀ fields, fields ≠ [] → fields ⊆ (Searchable.schema α).selectedFields options.mode →
        ∀ query,
          (∀ memory : Memory α, ∃ found whole,
            (searchFieldsWith memory query options fields).result = .ok found ∧
              (searchWith memory query options).result = .ok whole ∧
              (∀ item, found.accepts item = true → whole.accepts item = true) ∧
              found.hits.Sublist whole.hits) ∧
          ∀ items : List α, ∃ kept whole,
            (searchFieldsWith items query options fields).result = .ok kept ∧
              (searchWith items query options).result = .ok whole ∧ kept.Sublist whole := by
  refine ⟨fun some term => ?_, fun fields given subset query => ?_⟩
  · obtain ⟨p, -, built, -⟩ :=
      Predicate.exists_build_of_subset distinct some (List.Subset.refl _) term
    exact ⟨p, built, by rw [← Predicate.build_selectedFields distinct, built]⟩
  · obtain ⟨predicates, whole, asked, all, admits⟩ :=
      Predicate.ofQuery_of_subset distinct given subset query
    constructor
    · intro memory
      rw [searchFieldsWith, searchWith, Memory.result_compile, Memory.result_compile, asked, all]
      refine ⟨_, _, rfl, rfl, fun item => ?_, ?_⟩
      · exact Memory.accepts_of_admits admits
      · exact Memory.hits_sublist_of_admits admits
    · intro items
      rw [searchFieldsWith, searchWith, Eager.result_compile, Eager.result_compile, asked, all]
      exact ⟨_, _, rfl, rfl, Eager.filter_sublist_of_admits admits items⟩

/-- A record with a text, a number that may be absent, and a truth value. -/
structure Edition where
  title : String
  year : Option UInt64
  inPrint : Bool
  deriving DecidableEq

instance : Searchable Edition where
  schema := ⟨"Edition", 0, fun _ =>
    [.ofType "title" .string, (Member.ofType "year" .number).nullable, .ofType "in_print" .bool]⟩
  record edition
    | "title" => .string edition.title
    | "year" =>
      match edition.year with
      | some year => .number (.unsigned year)
      | none => .absent
    | "in_print" => .bool edition.inPrint
    | _ => .absent

def Edition.shelf : List Edition :=
  [⟨"Emma", some 1815, true⟩, ⟨"Waverley", some 1814, false⟩, ⟨"Anno 1815", none, true⟩]

/-- The year and the title, the year twice. -/
def Edition.someFields : List Field :=
  [(Field.ofName "year").intoText, .ofName "title", (Field.ofName "year").intoText]

theorem searchFieldsWith_of_subset_edition :
    ((Searchable.schema Edition).rootMembers.map Member.name).Nodup ∧
      (Searchable.schema Edition).selectedFields .all ≠ [] ∧ Edition.someFields ≠ [] ∧
      Edition.someFields ⊆ (Searchable.schema Edition).selectedFields .all ∧
      (∃ p, Predicate.build (Searchable.schema Edition) ⟨.all, true⟩
            ((Searchable.schema Edition).selectedFields .all) "tru" = .ok p ∧
          Predicate.build (Searchable.schema Edition) ⟨.all, true⟩ [] "tru" = .ok p) ∧
      ∃ found whole : Memory Edition,
        (searchFieldsWith (Memory.ofList Edition.shelf) (some "1815 a") ⟨.all, true⟩
            Edition.someFields).result = .ok found ∧
          found.hits = [⟨"Emma", some 1815, true⟩, ⟨"Anno 1815", none, true⟩] ∧
          (searchWith (Memory.ofList Edition.shelf) (some "1815 a") ⟨.all, true⟩).result =
            .ok whole ∧
          found.hits.Sublist whole.hits := by
  have distinct : ((Searchable.schema Edition).rootMembers.map Member.name).Nodup := by decide
  have some : (Searchable.schema Edition).selectedFields .all ≠ [] := by decide
  have given : Edition.someFields ≠ [] := by decide
  have subset : Edition.someFields ⊆ (Searchable.schema Edition).selectedFields .all := by decide
  obtain ⟨same, fewer⟩ := searchFieldsWith_of_subset distinct ⟨.all, true⟩
  obtain ⟨found, whole, asked, all, -, kept⟩ :=
    (fewer _ given subset (Option.some "1815 a")).1 (Memory.ofList Edition.shelf)
  refine ⟨distinct, some, given, subset, same some "tru", found, whole, asked, ?_, all, kept⟩
  obtain rfl := Except.ok.inj asked
  rfl

end RecordSearch
