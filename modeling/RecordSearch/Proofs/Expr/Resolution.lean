import Mathlib.Data.List.Nodup
import RecordSearch.Expr.Resolve
import RecordSearch.Proofs.Outcome

/-!
Resolution, operator by operator: what has to resolve for an expression to resolve. Of the members,
those of the record itself are told from the table.
-/
namespace RecordSearch

/-- Where no name is used twice, a thing is found under its name. -/
theorem find?_eq_some_of_nodup {α : Type} {name : α → String} {items : List α} {item : α}
    (distinct : (items.map name).Nodup) (inside : item ∈ items) :
    items.find? (fun other => name other == name item) = some item := by
  obtain ⟨found, looked⟩ :
      ∃ found, items.find? (fun other => name other == name item) = some found :=
    Option.isSome_iff_exists.mp (List.find?_isSome.mpr ⟨item, inside, beq_self_eq_true _⟩)
  -- What is found bears the name, and nothing else does.
  have same : name found = name item := by simpa using List.find?_some looked
  rw [looked, List.inj_on_of_nodup_map distinct (List.mem_of_find?_eq_some looked) inside same]

theorem findMember?_of_mem {members : List Member} {m : Member}
    (distinct : (members.map Member.name).Nodup) (member : m ∈ members) :
    findMember? members m.name = some m :=
  find?_eq_some_of_nodup distinct member

namespace Expr

variable {schema : Schema} {placeholder : String}

attribute [local simp] resolve

/-- A placeholder resolves if it is that of the record. -/
theorem resolve_param_eq_ok_iff {name : String} {resolved : Resolved} :
    (param name).resolve schema placeholder = .ok resolved ↔
      name = placeholder ∧ ⟨.record schema.root, false⟩ = resolved := by
  by_cases bound : name = placeholder <;> simp [bound]

theorem resolve_member_eq_ok_iff {target : Expr} {name : String} {resolved : Resolved} :
    (member target name).resolve schema placeholder = .ok resolved ↔
      ∃ parent table found, target.resolve schema placeholder = .ok parent ∧
        parent.ty = .record table ∧ findMember? (schema.members table) name = some found ∧
          resolved = ⟨found.ty, parent.isNullable || found.isNullable⟩ := by
  rw [resolve, bind_eq_ok_iff]
  constructor
  · rintro ⟨parent, stepped, last⟩
    cases record : parent.ty with
    | record table =>
      rw [record] at last
      cases looked : findMember? (schema.members table) name with
      | none => simp [looked] at last
      | some found =>
        simp only [looked, Except.ok.injEq] at last
        exact ⟨parent, table, found, stepped, record, looked, last.symm⟩
    | _ => simp [record] at last
  · rintro ⟨parent, table, found, stepped, record, looked, rfl⟩
    exact ⟨parent, stepped, by simp [record, looked]⟩

/-- A member of the record itself resolves to what its table declares. -/
theorem resolve_member_of_mem {m : Member} (distinct : (schema.rootMembers.map Member.name).Nodup)
    (inside : m ∈ schema.rootMembers) :
    (member (.param placeholder) m.name).resolve schema placeholder = .ok ⟨m.ty, m.isNullable⟩ := by
  rw [resolve_member_eq_ok_iff]
  exact ⟨⟨.record schema.root, false⟩, schema.root, m, resolve_param_eq_ok_iff.mpr ⟨rfl, rfl⟩, rfl,
    findMember?_of_mem distinct inside, rfl⟩

/-! ### Conversions and tests -/

theorem resolve_toText (schema : Schema) (placeholder : String) (inner : Expr) :
    (toText inner).resolve schema placeholder =
      if inner = param placeholder then .error (.recordNotText (toText inner).text)
      else (inner.resolve schema placeholder).map fun converted =>
        ⟨.string, converted.isNullable⟩ := by
  rw [resolve]
  split
  · rfl
  · cases inner.resolve schema placeholder <;> rfl

theorem resolve_upper (schema : Schema) (placeholder : String) (inner : Expr) :
    (upper inner).resolve schema placeholder =
      if inner = param placeholder then .error (.recordNotText (upper inner).text)
      else (inner.resolve schema placeholder).map fun converted =>
        ⟨.string, converted.isNullable⟩ := by
  rw [resolve]
  split
  · rfl
  · cases inner.resolve schema placeholder <;> rfl

theorem resolve_toText_eq_ok_iff {inner : Expr} {resolved : Resolved} :
    (toText inner).resolve schema placeholder = .ok resolved ↔
      inner ≠ param placeholder ∧ ∃ converted, inner.resolve schema placeholder = .ok converted ∧
        ⟨.string, converted.isNullable⟩ = resolved := by
  rw [resolve_toText]
  split
  next itself => simp [itself]
  next other => exact map_eq_ok_iff.trans (and_iff_right other).symm

theorem resolve_upper_eq_ok_iff {inner : Expr} {resolved : Resolved} :
    (upper inner).resolve schema placeholder = .ok resolved ↔
      inner ≠ param placeholder ∧ ∃ converted, inner.resolve schema placeholder = .ok converted ∧
        ⟨.string, converted.isNullable⟩ = resolved := by
  rw [resolve_upper]
  split
  next itself => simp [itself]
  next other => exact map_eq_ok_iff.trans (and_iff_right other).symm

theorem resolve_isPresent_eq_ok_iff {inner : Expr} {resolved : Resolved} :
    (isPresent inner).resolve schema placeholder = .ok resolved ↔
      ∃ tested, inner.resolve schema placeholder = .ok tested ∧ ⟨.bool, false⟩ = resolved := by
  simp [bind_eq_ok_iff]

theorem resolve_contains_eq_ok_iff {haystack : Expr} {needle : String} {resolved : Resolved} :
    (contains haystack needle).resolve schema placeholder = .ok resolved ↔
      ∃ tested, haystack.resolve schema placeholder = .ok tested ∧ ⟨.bool, false⟩ = resolved := by
  simp [bind_eq_ok_iff]

theorem resolve_and_eq_ok_iff {left right : Expr} {resolved : Resolved} :
    (and left right).resolve schema placeholder = .ok resolved ↔
      ∃ first second, left.resolve schema placeholder = .ok first ∧
        right.resolve schema placeholder = .ok second ∧ ⟨.bool, false⟩ = resolved := by
  simp [bind_eq_ok_iff]

theorem resolve_or_eq_ok_iff {left right : Expr} {resolved : Resolved} :
    (or left right).resolve schema placeholder = .ok resolved ↔
      ∃ first second, left.resolve schema placeholder = .ok first ∧
        right.resolve schema placeholder = .ok second ∧ ⟨.bool, false⟩ = resolved := by
  simp [bind_eq_ok_iff]

end Expr

end RecordSearch
