import RecordSearch.Proofs.Derive.Agreement

/-!
# What a field adds

A derivation is put together field by field. Here it is said what a single field adds and what can be
wrong with it, and a list of fields is taken apart into its fields.

## Main results

`ofField_eq_ok_iff`, `ofField_eq_error_iff`: what a field adds, and why it is refused.
`ofFields_eq_ok_iff`, `ofFields_eq_error_iff`: a list adds what its fields add, and is refused for
the first of them that is.
-/
namespace RecordSearch.Derive

/-! ### Types -/

namespace FieldType

/-- What references, parentheses and groups around a type lead to. -/
def chainEnd : FieldType → FieldType
  | .reference _ target => target.chainEnd
  | .parenthesized inner => inner.chainEnd
  | .group inner => inner.chainEnd
  | type => type

/-- Whether a type is written as a path, an array or a slice. -/
def isPathOrSequence : FieldType → Bool
  | .named _ => true
  | .applied _ _ => true
  | .array _ _ => true
  | .slice _ => true
  | _ => false

theorem kind?_eq_none_iff {type : FieldType} :
    type.kind? = none ↔ type.chainEnd.isPathOrSequence = false := by
  fun_induction kind? type with
  | case3 lifetime target ih => exact ih
  | case4 inner ih => exact ih
  | case5 inner ih => exact ih
  | _ => simp [chainEnd, isPathOrSequence]

/-- A field has one member type. -/
theorem hasMember_iff {type inner : FieldType} :
    type.HasMember inner ↔ type.optionInner?.getD type = inner := by
  constructor
  · rintro (optional | plain)
    · rw [optionInner?_eq_some_iff.mpr optional, Option.getD_some]
    · cases inside : type.optionInner? with
      | none => rfl
      | some other => exact absurd (optionInner?_eq_some_iff.mp inside) (plain other)
  · rintro rfl
    exact hasMember_optionInner?

end FieldType

/-! ### What a field adds, and what can be wrong with it -/

namespace FieldItem

/-- The type of a field's member: the one inside an optional type, and else the field's own. -/
def memberType (field : FieldItem) : FieldType := field.type.optionInner?.getD field.type

/-- The name of a field's member: the one that its attribute gives, and else the field's own. -/
def memberName (field : FieldItem) (settings : Settings) : String :=
  settings.rename.getD (Derivation.plainName field.name)

end FieldItem

/-- What a field adds whose member is of a kind. -/
def Derivation.ofKind (field : FieldItem) (settings : Settings) (kind : Kind) : Derivation where
  constants := [(constantName (field.memberName settings), field.memberName settings)]
  table := [⟨field.memberName settings, kind, if kind = .record then some field.memberType else none,
    settings.readonly, decide (field.visibility ≠ .everywhere), field.type.optionInner?.isSome⟩]
  arms := kind.value?.toList.map fun value =>
    ⟨field.memberName settings, field.name, field.type.optionInner?.isSome, value⟩

namespace FieldItem

/-- Whether a field adds a derivation. -/
inductive Adds (field : FieldItem) : Derivation → Prop
  | skipped {settings : Settings} (made : Settings.ofAttributes field.attributes = .ok settings)
      (skip : settings.skip = true) : Adds field .empty
  | member {settings : Settings} {kind : Kind}
      (made : Settings.ofAttributes field.attributes = .ok settings) (kept : settings.skip = false)
      (told : settings.kind.or field.memberType.kind? = some kind)
      (named : Unicode.isIdentifier (constantName (field.memberName settings)).toList = true) :
      Adds field (.ofKind field settings kind)

/-- Whether a field is refused for a reason: its attribute is, or else its type says nothing of a kind
that the attribute leaves open, or else its name is that of no constant. -/
inductive HasFault (field : FieldItem) : DeriveError → Prop
  | badAttribute {e : AttributeError} (refused : Settings.ofAttributes field.attributes = .error e) :
      HasFault field (.badAttribute e)
  | noKind {settings : Settings} (made : Settings.ofAttributes field.attributes = .ok settings)
      (kept : settings.skip = false) (implicit : settings.kind = none) {type : FieldType}
      (member : field.type.HasMember type) (untold : type.chainEnd.isPathOrSequence = false) :
      HasFault field .noKind
  | invalidConstant {settings : Settings} {kind : Kind}
      (made : Settings.ofAttributes field.attributes = .ok settings) (kept : settings.skip = false)
      (told : settings.kind.or field.memberType.kind? = some kind)
      (unnamed : Unicode.isIdentifier (constantName (field.memberName settings)).toList = false) :
      HasFault field (.invalidConstant (constantName (field.memberName settings)))

/-- A kind that neither the attribute nor the type tells is missing. -/
theorem hasFault_noKind_iff {field : FieldItem} : field.HasFault .noKind ↔
    ∃ settings, Settings.ofAttributes field.attributes = .ok settings ∧ settings.skip = false ∧
      settings.kind.or field.memberType.kind? = none := by
  constructor
  · rintro (_ | ⟨made, kept, implicit, member, untold⟩)
    obtain rfl := FieldType.hasMember_iff.mp member
    have unknown := FieldType.kind?_eq_none_iff.mpr untold
    exact ⟨_, made, kept, Option.or_eq_none_iff.mpr ⟨implicit, unknown⟩⟩
  · rintro ⟨settings, made, kept, untold⟩
    obtain ⟨implicit, unknown⟩ := Option.or_eq_none_iff.mp untold
    exact .noKind made kept implicit FieldType.hasMember_optionInner?
      (FieldType.kind?_eq_none_iff.mp unknown)

end FieldItem

namespace Derivation

/-! ### One field -/

section OneField

variable {field : FieldItem} {settings : Settings} {type : FieldType} {kind : Kind}
  {d : Derivation} {e : DeriveError}

theorem memberKind_of_eq_some (told : settings.kind.or type.kind? = some kind) :
    memberKind settings type = .ok kind := by
  rw [memberKind]
  cases explicit : settings.kind with
  | some named =>
    rw [explicit] at told
    exact congrArg Except.ok (Option.some.inj told)
  | none =>
    rw [explicit, Option.none_or] at told
    rw [told]

theorem memberKind_of_eq_none (implicit : settings.kind = none) (unknown : type.kind? = none) :
    memberKind settings type = .error .noKind := by
  rw [memberKind, implicit, unknown]

theorem ofField_of_made (made : Settings.ofAttributes field.attributes = .ok settings) :
    ofField field = if settings.skip then .ok empty else ofMember field settings := by
  rw [ofField, made]
  rfl

theorem ofField_of_adds (adds : field.Adds d) : ofField field = .ok d := by
  cases adds with
  | skipped made skip => rw [ofField_of_made made, if_pos skip]
  | @member settings kind made kept told named =>
    have known : memberKind settings (field.type.optionInner?.getD field.type) = .ok kind :=
      memberKind_of_eq_some told
    have constant : checkedConstant (settings.rename.getD (plainName field.name)) =
        .ok (constantName (field.memberName settings)) := if_pos named
    rw [ofField_of_made made, kept, if_neg Bool.false_ne_true, ofMember, known, ok_bind]
    simp only [constant]
    rfl

theorem ofField_of_hasFault (fault : field.HasFault e) : ofField field = .error e := by
  cases fault with
  | badAttribute refused =>
    rw [ofField, refused]
    rfl
  | noKind made kept implicit member untold =>
    obtain rfl := FieldType.hasMember_iff.mp member
    have unknown := memberKind_of_eq_none implicit (FieldType.kind?_eq_none_iff.mpr untold)
    rw [ofField_of_made made, kept, if_neg Bool.false_ne_true, ofMember, unknown, error_bind]
  | @invalidConstant settings kind made kept told unnamed =>
    have known : memberKind settings (field.type.optionInner?.getD field.type) = .ok kind :=
      memberKind_of_eq_some told
    have constant : checkedConstant (settings.rename.getD (plainName field.name)) =
        .error (.invalidConstant (constantName (field.memberName settings))) :=
      if_neg (Bool.eq_false_iff.mp unnamed)
    rw [ofField_of_made made, kept, if_neg Bool.false_ne_true, ofMember, known, ok_bind]
    simp only [constant]
    rfl

/-- A field adds something or is refused. -/
theorem adds_or_hasFault (field : FieldItem) : (∃ d, field.Adds d) ∨ ∃ e, field.HasFault e := by
  -- The cases come in the order in which a field is looked at: attribute, skipping, kind, name.
  cases made : Settings.ofAttributes field.attributes with
  | error e => exact Or.inr ⟨_, .badAttribute made⟩
  | ok settings =>
    cases skip : settings.skip with
    | true => exact Or.inl ⟨_, .skipped made skip⟩
    | false =>
      cases told : settings.kind.or field.memberType.kind? with
      | none => exact Or.inr ⟨_, FieldItem.hasFault_noKind_iff.mpr ⟨settings, made, skip, told⟩⟩
      | some kind =>
        cases named : Unicode.isIdentifier (constantName (field.memberName settings)).toList with
        | true => exact Or.inl ⟨_, .member made skip told named⟩
        | false => exact Or.inr ⟨_, .invalidConstant made skip told named⟩

theorem ofField_eq_ok_iff : ofField field = .ok d ↔ field.Adds d := by
  refine ⟨fun taken => ?_, ofField_of_adds⟩
  rcases adds_or_hasFault field with ⟨d', adds⟩ | ⟨e, fault⟩
  · cases (ofField_of_adds adds).symm.trans taken
    exact adds
  · cases (ofField_of_hasFault fault).symm.trans taken

theorem ofField_eq_error_iff : ofField field = .error e ↔ field.HasFault e := by
  refine ⟨fun refused => ?_, ofField_of_hasFault⟩
  rcases adds_or_hasFault field with ⟨d, adds⟩ | ⟨e', fault⟩
  · cases (ofField_of_adds adds).symm.trans refused
  · cases (ofField_of_hasFault fault).symm.trans refused
    exact fault

end OneField

/-! ### Lists of fields -/

/-- The derivations of a list in a row. -/
def joined (parts : List Derivation) : Derivation := parts.foldr (· ++ ·) empty

section Fields

variable {fields : List FieldItem} {d : Derivation} {e : DeriveError}

theorem ofFields_eq_mapM (fields : List FieldItem) :
    ofFields fields = joined <$> fields.mapM ofField := by
  induction fields with
  | nil => rfl
  | cons field rest ih =>
    rw [ofFields, List.mapM_cons, ih]
    cases ofField field with
    | error e => rfl
    | ok part =>
      -- What fails later fails alike on both sides, before anything is joined.
      cases rest.mapM ofField with
      | error e => rfl
      | ok parts => rfl

theorem ofFields_eq_ok_iff : ofFields fields = .ok d ↔
    ∃ parts, List.Forall₂ FieldItem.Adds fields parts ∧ joined parts = d := by
  simp only [ofFields_eq_mapM, map_eq_ok_iff, mapM_eq_ok_iff, ofField_eq_ok_iff]

theorem ofFields_eq_error_iff : ofFields fields = .error e ↔
    ∃ before field after, fields = before ++ field :: after ∧
      (∀ earlier ∈ before, ∃ part, earlier.Adds part) ∧ field.HasFault e := by
  have failed : ofFields fields = .error e ↔ fields.mapM ofField = .error e := by
    rw [ofFields_eq_mapM]
    exact map_eq_error_iff
  simp only [failed, mapM_eq_error_iff, ofField_eq_ok_iff, ofField_eq_error_iff]

end Fields

end Derivation

/-! ### Items -/

/-- What is derived of a struct is what its fields yield. -/
theorem derive_struct (name parameters : String) (fields : List FieldItem) :
    derive ⟨name, parameters, .fields fields⟩ =
      if Trivia.isTrivia parameters then Derivation.ofFields fields else .error .hasParameters := rfl

theorem derive_of_fields {item : Item} {fields : List FieldItem}
    (plain : Trivia.isTrivia item.parameters = true) (shape : item.body = .fields fields) :
    derive item = Derivation.ofFields fields := by
  rw [derive, if_pos plain, shape]

/-- Only a struct with named fields and without parameters is derived from. -/
theorem derive_eq_ok_iff {item : Item} {d : Derivation} : derive item = .ok d ↔
    Trivia.isTrivia item.parameters = true ∧
      ∃ fields, item.body = .fields fields ∧ Derivation.ofFields fields = .ok d := by
  constructor
  · intro derived
    -- Both guards are read off the success: parameters and every other shape give an error.
    have plain : Trivia.isTrivia item.parameters = true := by
      by_contra given
      rw [derive, if_neg given] at derived
      cases derived
    obtain ⟨fields, shape, made⟩ : ∃ fields, item.body = .fields fields ∧
        Derivation.ofFields fields = .ok d := by
      rw [derive, if_pos plain] at derived
      cases shape : item.body with
      | fields fields =>
        rw [shape] at derived
        exact ⟨fields, rfl, derived⟩
      | _ =>
        rw [shape] at derived
        cases derived
    exact ⟨plain, fields, shape, made⟩
  · rintro ⟨plain, fields, shape, made⟩
    rw [derive_of_fields plain shape, made]

end RecordSearch.Derive
