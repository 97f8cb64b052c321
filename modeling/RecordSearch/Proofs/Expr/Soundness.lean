import RecordSearch.Expr.Eval
import RecordSearch.Proofs.Expr.Resolution

/-!
# Soundness of resolution

On a record that keeps to its declaration an expression evaluates to an operand of the type that it
resolves to, absent only if the resolved type allows it. There is one exception. An upper-case form
resolves to a string whatever it is taken of, but only what is a text has one: the text is lost, and
the expression is absent on every record.

## Main result

`fits_eval`: an expression that resolves evaluates to an operand that fits its type.
-/
namespace RecordSearch

/-! ### Records that keep to their declaration -/

/-- Whether a value is of a declared type: it is of the kind of the type, its members are of their
declared types in turn, and it is absent only if it may be. Nothing is asked of a collection. -/
inductive Value.Conforms (schema : Schema) : MemberType → Bool → Value → Prop
  | string (isNullable : Bool) (s : String) : Conforms schema .string isNullable (.string s)
  | number (isNullable : Bool) (n : Number) : Conforms schema .number isNullable (.number n)
  | float (isNullable : Bool) (n : Number) : Conforms schema .float isNullable (.number n)
  | bool (isNullable : Bool) (b : Bool) : Conforms schema .bool isNullable (.bool b)
  | text (isNullable : Bool) (shown : String) : Conforms schema .text isNullable (.text shown)
  | record (isNullable : Bool) (shown : String) {table : TableId} {field : Record}
      (members : ∀ m ∈ schema.members table, Conforms schema m.ty m.isNullable (field m.name)) :
      Conforms schema (.record table) isNullable (.record shown field)
  | collection (isNullable : Bool) (v : Value) : Conforms schema .collection isNullable v
  | absent (ty : MemberType) : Conforms schema ty true .absent

/-- Whether every member of a record is of its declared type. -/
def Schema.Describes (schema : Schema) (record : Record) : Prop :=
  ∀ m ∈ schema.rootMembers, (record m.name).Conforms schema m.ty m.isNullable

variable {schema : Schema} {placeholder : String} {record : Record}

theorem Value.Conforms.or_nullable {ty : MemberType} {isNullable : Bool} {v : Value}
    (conforms : v.Conforms schema ty isNullable) (other : Bool) :
    v.Conforms schema ty (other || isNullable) := by
  cases conforms with
  | record _ shown members => exact .record _ shown members
  | absent ty =>
    -- What is absent may be, whatever stands in front.
    rw [Bool.or_true]
    exact .absent ty
  | _ => constructor

namespace Expr

/-- Whether no member that is read is a collection. -/
def AvoidsCollections (schema : Schema) (placeholder : String) : Expr → Prop
  | param _ => True
  | member target name => target.AvoidsCollections schema placeholder ∧
    ∀ resolved, (member target name).resolve schema placeholder = .ok resolved →
      resolved.ty ≠ .collection
  | toText inner => inner.AvoidsCollections schema placeholder
  | upper inner => inner.AvoidsCollections schema placeholder
  | isPresent inner => inner.AvoidsCollections schema placeholder
  | contains haystack _ => haystack.AvoidsCollections schema placeholder
  | and left right =>
    left.AvoidsCollections schema placeholder ∧ right.AvoidsCollections schema placeholder
  | or left right =>
    left.AvoidsCollections schema placeholder ∧ right.AvoidsCollections schema placeholder

/-- Whether an expression resolves to a string. -/
def isText (schema : Schema) (placeholder : String) (e : Expr) : Bool :=
  match e.resolve schema placeholder with
  | .ok resolved => resolved.ty.isString
  | .error _ => false

/-- Whether the text of an expression is lost, since an upper-case form is taken of something else
than a text. -/
def losesText (schema : Schema) (placeholder : String) : Expr → Bool
  | toText inner => inner.losesText schema placeholder
  | upper inner => inner.losesText schema placeholder || !inner.isText schema placeholder
  | _ => false

theorem isText_of_resolve {e : Expr} {resolved : Resolved}
    (resolves : e.resolve schema placeholder = .ok resolved) :
    e.isText schema placeholder = resolved.ty.isString := by
  rw [isText, resolves]

theorem eq_param_of_eval_eq_root {e : Expr} (root : e.eval placeholder record = .root) :
    e = param placeholder := by
  cases e with
  | param name =>
    by_cases bound : name = placeholder
    · rw [bound]
    · simp [eval, bound, Operand.absent] at root
  | member target name =>
    rw [eval, Operand.member.eq_def] at root
    split at root <;> cases root
  | toText inner =>
    rw [eval, Operand.toText.eq_def] at root
    split at root
    · cases root
    · split at root <;> cases root
    · cases root
    · cases root
  | upper inner =>
    rw [eval, Operand.upper] at root
    split at root <;> cases root
  | _ => cases root

theorem ty_ne_collection {e : Expr} {resolved : Resolved}
    (resolves : e.resolve schema placeholder = .ok resolved)
    (avoids : e.AvoidsCollections schema placeholder) : resolved.ty ≠ .collection := by
  -- Only a member can be a collection: what operators yield is a text or a truth value.
  cases e with
  | param name =>
    obtain ⟨-, rfl⟩ := resolve_param_eq_ok_iff.mp resolves
    simp
  | member target name => exact avoids.2 resolved resolves
  | toText inner =>
    obtain ⟨-, converted, -, rfl⟩ := resolve_toText_eq_ok_iff.mp resolves
    simp
  | upper inner =>
    obtain ⟨-, converted, -, rfl⟩ := resolve_upper_eq_ok_iff.mp resolves
    simp
  | isPresent inner =>
    obtain ⟨tested, -, rfl⟩ := resolve_isPresent_eq_ok_iff.mp resolves
    simp
  | contains haystack needle =>
    obtain ⟨tested, -, rfl⟩ := resolve_contains_eq_ok_iff.mp resolves
    simp
  | and left right =>
    obtain ⟨first, second, -, -, rfl⟩ := resolve_and_eq_ok_iff.mp resolves
    simp
  | or left right =>
    obtain ⟨first, second, -, -, rfl⟩ := resolve_or_eq_ok_iff.mp resolves
    simp

end Expr

/-! ### Operands of a type -/

/-- Whether an operand is of a resolved type. The flag tells that its text is lost. -/
inductive Operand.Fits (schema : Schema) : Resolved → Bool → Operand → Prop
  | root : Fits schema ⟨.record schema.root, false⟩ false .root
  | value {ty : MemberType} {isNullable : Bool} {v : Value}
      (conforms : v.Conforms schema ty isNullable) : Fits schema ⟨ty, isNullable⟩ false (.value v)
  | text (isNullable : Bool) (s : String) : Fits schema ⟨.string, isNullable⟩ false (.text s)
  | truth (b : Bool) : Fits schema ⟨.bool, false⟩ false (.truth b)
  | lost (isNullable : Bool) : Fits schema ⟨.string, isNullable⟩ true .absent

namespace Operand.Fits

variable {resolved : Resolved} {isLost : Bool} {operand : Operand}

theorem toText (fits : operand.Fits schema resolved isLost) (noRoot : operand ≠ .root)
    (noCollection : resolved.ty ≠ .collection) :
    operand.toText.Fits schema ⟨.string, resolved.isNullable⟩ isLost := by
  cases fits with
  | root => exact absurd rfl noRoot
  | value conforms =>
    cases conforms with
    | collection isNullable v => exact absurd rfl noCollection
    | absent ty => exact .value (.absent .string)
    | _ => exact .text _ _
  | text isNullable s => exact .text _ s
  | truth b => exact .text _ _
  | lost isNullable => exact .lost isNullable

/-- Only of a text is there an upper-case form, and only a text is a string. -/
theorem upper (fits : operand.Fits schema resolved isLost)
    (noCollection : resolved.ty ≠ .collection) :
    operand.upper.Fits schema ⟨.string, resolved.isNullable⟩
      (isLost || !resolved.ty.isString) := by
  cases fits with
  | root => exact .lost _
  | @value ty isNullable v conforms =>
    cases conforms with
    | string isNullable s => exact .text _ _
    | collection isNullable v => exact absurd rfl noCollection
    | absent ty =>
      -- An absent string is absent for its own reason; anything else would have lost its text.
      cases ty with
      | string => exact .value (.absent .string)
      | _ => exact .lost true
    | _ => exact .lost _
  | text isNullable s => exact .text _ _
  | truth b => exact .lost _
  | lost isNullable => exact .lost isNullable

/-- A member of what is typed as a record: of the record itself, of a nested one, or of none. -/
theorem member {table : TableId} {found : Member} {name : String}
    (fits : operand.Fits schema resolved isLost) (described : schema.Describes record)
    (typed : resolved.ty = .record table)
    (declared : findMember? (schema.members table) name = some found) :
    (operand.member record name).Fits schema
      ⟨found.ty, resolved.isNullable || found.isNullable⟩ false := by
  obtain ⟨inside, rfl⟩ := findMember?_some declared
  cases fits with
  | root =>
    obtain rfl : schema.root = table := MemberType.record.inj typed
    exact .value ((described found inside).or_nullable false)
  | @value ty isNullable v conforms =>
    cases conforms with
    | record isNullable shown members =>
      obtain rfl := MemberType.record.inj typed
      exact .value ((members found inside).or_nullable isNullable)
    | absent ty => exact .value (.absent found.ty)
    | _ => cases typed
  | _ => cases typed

/-- An operand of a string type is a text, or absent since it may be or since its text is lost. -/
theorem text_or_absent (fits : operand.Fits schema resolved isLost)
    (string : resolved.ty = .string) :
    (isLost = false → (∃ s, operand.searchable? = some s) ∨
        operand.isAbsent = true ∧ resolved.isNullable = true) ∧
      (isLost = true → operand.isAbsent = true) := by
  cases fits with
  | root => cases string
  | value conforms =>
    refine ⟨fun _ => ?_, fun lost => (by cases lost)⟩
    cases conforms with
    | string isNullable s => exact Or.inl ⟨s, rfl⟩
    | absent ty => exact Or.inr ⟨rfl, rfl⟩
    | _ => cases string
  | text isNullable s => exact ⟨fun _ => Or.inl ⟨s, rfl⟩, fun lost => (by cases lost)⟩
  | truth b => cases string
  | lost isNullable => exact ⟨fun kept => (by cases kept), fun _ => rfl⟩

end Operand.Fits

/-- An expression evaluates to an operand of the type that it resolves to. -/
theorem Expr.fits_eval {e : Expr} {resolved : Resolved} (described : schema.Describes record)
    (resolves : e.resolve schema placeholder = .ok resolved)
    (avoids : e.AvoidsCollections schema placeholder) :
    (e.eval placeholder record).Fits schema resolved (e.losesText schema placeholder) := by
  induction e generalizing resolved with
  | param name =>
    obtain ⟨bound, rfl⟩ := resolve_param_eq_ok_iff.mp resolves
    rw [eval, if_pos bound]
    exact .root
  | member target name ih =>
    obtain ⟨parent, table, found, stepped, typed, declared, rfl⟩ :=
      resolve_member_eq_ok_iff.mp resolves
    exact (ih stepped avoids.1).member described typed declared
  | toText inner ih =>
    obtain ⟨noRecord, converted, inside, rfl⟩ := resolve_toText_eq_ok_iff.mp resolves
    -- Only the placeholder evaluates to the record itself.
    exact (ih inside avoids).toText (fun root => noRecord (eq_param_of_eval_eq_root root))
      (ty_ne_collection inside avoids)
  | upper inner ih =>
    obtain ⟨-, converted, inside, rfl⟩ := resolve_upper_eq_ok_iff.mp resolves
    rw [losesText, isText_of_resolve inside]
    exact (ih inside avoids).upper (ty_ne_collection inside avoids)
  | isPresent inner ih =>
    obtain ⟨tested, -, rfl⟩ := resolve_isPresent_eq_ok_iff.mp resolves
    exact .truth _
  | contains haystack needle ih =>
    obtain ⟨tested, -, rfl⟩ := resolve_contains_eq_ok_iff.mp resolves
    exact .truth _
  | and left right ihLeft ihRight =>
    obtain ⟨first, second, -, -, rfl⟩ := resolve_and_eq_ok_iff.mp resolves
    exact .truth _
  | or left right ihLeft ihRight =>
    obtain ⟨first, second, -, -, rfl⟩ := resolve_or_eq_ok_iff.mp resolves
    exact .truth _

end RecordSearch
