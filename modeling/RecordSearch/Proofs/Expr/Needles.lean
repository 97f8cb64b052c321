import RecordSearch.Proofs.Expr.Resolution

/-!
# Needles of expressions

Expressions that differ in what they search for, and in nothing else, resolve to the same type or not
at all. An expression that stands for a record holds no needle.

## Main results

`resolve_withoutNeedles_eq_ok_iff`: needles do not matter to resolution.
`needles_eq_nil_of_table`: the path to a member holds no needle.
-/
namespace RecordSearch.Expr

/-- The expression with every needle left empty. -/
def withoutNeedles : Expr → Expr
  | param name => param name
  | member target name => member target.withoutNeedles name
  | toText inner => toText inner.withoutNeedles
  | upper inner => upper inner.withoutNeedles
  | isPresent inner => isPresent inner.withoutNeedles
  | contains haystack _ => contains haystack.withoutNeedles ""
  | and left right => and left.withoutNeedles right.withoutNeedles
  | or left right => or left.withoutNeedles right.withoutNeedles

/-- Expressions that differ in their needles alone. -/
def SameButNeedles (e e' : Expr) : Prop := e.withoutNeedles = e'.withoutNeedles

theorem needles_withoutNeedles (e : Expr) :
    e.withoutNeedles.needles = e.needles.map fun _ => "" := by
  induction e with
  | param name => rfl
  | member target name ih => exact ih
  | toText inner ih => exact ih
  | upper inner ih => exact ih
  | isPresent inner ih => exact ih
  | contains haystack needle ih => simp [withoutNeedles, needles, ih]
  | and left right ihLeft ihRight => simp [withoutNeedles, needles, ihLeft, ihRight]
  | or left right ihLeft ihRight => simp [withoutNeedles, needles, ihLeft, ihRight]

/-- Such expressions have the same number of needles. -/
theorem SameButNeedles.length_needles_eq {e e' : Expr} (same : e.SameButNeedles e') :
    e.needles.length = e'.needles.length := by
  have emptied := congrArg (fun e => e.needles.length) same
  simpa only [needles_withoutNeedles, List.length_map] using emptied

theorem withoutNeedles_eq_param_iff {e : Expr} {name : String} :
    e.withoutNeedles = param name ↔ e = param name := by
  cases e <;> simp [withoutNeedles]

variable {schema : Schema} {placeholder : String}

theorem resolve_withoutNeedles_eq_ok_iff {e : Expr} {resolved : Resolved} :
    e.withoutNeedles.resolve schema placeholder = .ok resolved ↔
      e.resolve schema placeholder = .ok resolved := by
  -- An operator asks of its operands only what they resolve to, and whether one is the record.
  induction e generalizing resolved with
  | param name => exact Iff.rfl
  | member target name ih =>
    rw [withoutNeedles, resolve_member_eq_ok_iff, resolve_member_eq_ok_iff]
    simp only [ih]
  | toText inner ih =>
    rw [withoutNeedles, resolve_toText_eq_ok_iff, resolve_toText_eq_ok_iff]
    simp only [ih, ne_eq, withoutNeedles_eq_param_iff]
  | upper inner ih =>
    rw [withoutNeedles, resolve_upper_eq_ok_iff, resolve_upper_eq_ok_iff]
    simp only [ih, ne_eq, withoutNeedles_eq_param_iff]
  | isPresent inner ih =>
    rw [withoutNeedles, resolve_isPresent_eq_ok_iff, resolve_isPresent_eq_ok_iff]
    simp only [ih]
  | contains haystack needle ih =>
    rw [withoutNeedles, resolve_contains_eq_ok_iff, resolve_contains_eq_ok_iff]
    simp only [ih]
  | and left right ihLeft ihRight =>
    rw [withoutNeedles, resolve_and_eq_ok_iff, resolve_and_eq_ok_iff]
    simp only [ihLeft, ihRight]
  | or left right ihLeft ihRight =>
    rw [withoutNeedles, resolve_or_eq_ok_iff, resolve_or_eq_ok_iff]
    simp only [ihLeft, ihRight]

/-- What is a record holds no needle: it is the placeholder or a member, and so is its target. -/
theorem needles_eq_nil_of_table {e : Expr} {resolved : Resolved} {table : TableId}
    (resolves : e.resolve schema placeholder = .ok resolved)
    (record : resolved.ty = .record table) : e.needles = [] := by
  induction e generalizing resolved table with
  | param name => rfl
  | member target name ih =>
    obtain ⟨parent, parentTable, -, stepped, within, -, -⟩ := resolve_member_eq_ok_iff.mp resolves
    exact ih stepped within
  | toText inner ih =>
    obtain ⟨-, converted, -, rfl⟩ := resolve_toText_eq_ok_iff.mp resolves
    cases record
  | upper inner ih =>
    obtain ⟨-, converted, -, rfl⟩ := resolve_upper_eq_ok_iff.mp resolves
    cases record
  | isPresent inner ih =>
    obtain ⟨tested, -, rfl⟩ := resolve_isPresent_eq_ok_iff.mp resolves
    cases record
  | contains haystack needle ih =>
    obtain ⟨tested, -, rfl⟩ := resolve_contains_eq_ok_iff.mp resolves
    cases record
  | and left right ihLeft ihRight =>
    obtain ⟨first, second, -, -, rfl⟩ := resolve_and_eq_ok_iff.mp resolves
    cases record
  | or left right ihLeft ihRight =>
    obtain ⟨first, second, -, -, rfl⟩ := resolve_or_eq_ok_iff.mp resolves
    cases record

/-- A member that resolves is asked of a record, and so its path holds no needle. -/
theorem needles_eq_nil_of_member {target : Expr} {name : String} {resolved : Resolved}
    (resolves : (member target name).resolve schema placeholder = .ok resolved) :
    target.needles = [] := by
  obtain ⟨parent, table, -, stepped, record, -, -⟩ := resolve_member_eq_ok_iff.mp resolves
  exact needles_eq_nil_of_table stepped record

end RecordSearch.Expr
