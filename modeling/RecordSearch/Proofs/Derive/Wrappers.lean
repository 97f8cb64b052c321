import RecordSearch.Proofs.Derive.Fields

/-!
# Parentheses and groups

Parentheses around a type and groups that hold it together mean nothing to the type. The kind of a
member is looked for behind them, but an optional type is recognised only where it stands bare: in
parentheses or a group it is an opaque type that is never absent.

## Main result

`derive_wrappers`: parentheses and groups make no difference, unless they hide an optional type of a
field to which that matters.
-/
namespace RecordSearch.Derive

/-! ### Types -/

mutual

/-- A type without any parentheses and groups. -/
def FieldType.withoutWrappers : FieldType → FieldType
  | .named path => .named path
  | .applied path arguments => .applied path arguments.withoutWrappers
  | .reference lifetime target => .reference lifetime target.withoutWrappers
  | .array item length => .array item.withoutWrappers length
  | .slice item => .slice item.withoutWrappers
  | .parenthesized inner => inner.withoutWrappers
  | .group inner => inner.withoutWrappers
  | .pointer target => .pointer target.withoutWrappers
  | .tuple items => .tuple items.withoutWrappers
  | .function => .function
  | .never => .never
  | .dynamic bound => .dynamic bound

def TypeArguments.withoutWrappers : TypeArguments → TypeArguments
  | .nil => .nil
  | .type head tail => .type head.withoutWrappers tail.withoutWrappers
  | .lifetime name tail => .lifetime name tail.withoutWrappers

end

namespace FieldType

/-- Whether parentheses or a group stand around a type. -/
def isWrapped : FieldType → Bool
  | .parenthesized _ => true
  | .group _ => true
  | _ => false

/-- Whether parentheses or a group stand around an optional type. -/
structure HidesOption (type : FieldType) : Prop where
  wrapped : type.isWrapped = true
  optional : ∃ inner, type.withoutWrappers.IsOptionOf inner

instance (type : FieldType) : Decidable type.HidesOption :=
  decidable_of_iff (type.isWrapped = true ∧ type.withoutWrappers.optionInner?.isSome = true)
    ⟨fun ⟨wrapped, optional⟩ => ⟨wrapped, isSome_optionInner?_iff.mp optional⟩,
      fun ⟨wrapped, optional⟩ => ⟨wrapped, isSome_optionInner?_iff.mpr optional⟩⟩

variable {type other inner : FieldType}

/-- The kind of a type is looked for behind parentheses and groups. -/
theorem kind?_withoutWrappers (type : FieldType) : type.withoutWrappers.kind? = type.kind? := by
  fun_induction kind? type with
  | case3 lifetime target ih => exact ih
  | case4 inner ih => exact ih
  | case5 inner ih => exact ih
  | _ => rfl

theorem optionInner?_of_isWrapped (wrapped : type.isWrapped = true) : type.optionInner? = none := by
  cases type <;> first | rfl | cases wrapped

/-- The type inside an optional type is looked for only where nothing stands around that. -/
theorem optionInner?_withoutWrappers (bare : type.isWrapped = false) :
    type.withoutWrappers.optionInner? = type.optionInner?.map withoutWrappers := by
  cases type with
  | parenthesized inner => cases bare
  | group inner => cases bare
  | applied path arguments =>
    cases arguments with
    | nil => rfl
    | lifetime name tail => rfl
    | type head tail =>
      rw [withoutWrappers, TypeArguments.withoutWrappers, optionInner?, optionInner?]
      split <;> rfl
  | _ => rfl

theorem map_optionInner? (shown : ¬ type.HidesOption) :
    type.optionInner?.map withoutWrappers = type.withoutWrappers.optionInner? := by
  cases wrapped : type.isWrapped with
  | false => exact (optionInner?_withoutWrappers wrapped).symm
  | true =>
    rw [optionInner?_of_isWrapped wrapped]
    -- Nothing is found behind parentheses; nor is anything there, for nothing is hidden.
    cases inside : type.withoutWrappers.optionInner? with
    | none => rfl
    | some inner => exact absurd ⟨wrapped, inner, optionInner?_eq_some_iff.mp inside⟩ shown

theorem kind?_of_isOptionOf (optional : type.IsOptionOf inner) : type.kind? = some .text := by
  obtain ⟨named, inner, rest⟩ := optional
  rw [kind?, Kind.ofPath, named]
  rfl

/-- What is hidden counts as an opaque type that is never absent. -/
theorem HidesOption.kind? (hides : type.HidesOption) : type.kind? = some .text := by
  obtain ⟨inner, optional⟩ := hides.optional
  rw [← kind?_withoutWrappers, kind?_of_isOptionOf optional]

/-- Types that differ in parentheses and groups alone are read alike if both hide an optional type or
neither does. -/
theorem map_optionInner?_congr (same : type.withoutWrappers = other.withoutWrappers)
    (alike : type.HidesOption ↔ other.HidesOption) :
    type.optionInner?.map withoutWrappers = other.optionInner?.map withoutWrappers := by
  by_cases hides : type.HidesOption
  · rw [optionInner?_of_isWrapped hides.wrapped,
      optionInner?_of_isWrapped (alike.mp hides).wrapped]
  · rw [map_optionInner? hides, map_optionInner? (mt alike.mpr hides), same]

end FieldType

/-! ### Fields -/

/-- What is derived, with the types of nested records as they are without parentheses and groups. -/
def Derivation.withoutWrappers (d : Derivation) : Derivation where
  constants := d.constants
  table := d.table.map fun entry =>
    { entry with nested := entry.nested.map FieldType.withoutWrappers }
  arms := d.arms

namespace FieldItem

/-- The same field of another type. -/
def withType (field : FieldItem) (type : FieldType) : FieldItem := { field with type := type }

def withoutWrappers (field : FieldItem) : FieldItem := field.withType field.type.withoutWrappers

/-- Whether it does not matter to a field of an optional type that the type is optional: its attribute
is refused, it is skipped, or all that can come of its kind is a name without a constant. -/
inductive IgnoresOption (field : FieldItem) : Prop
  | refused {e : AttributeError} (refused : Settings.ofAttributes field.attributes = .error e)
  | skipped {settings : Settings} (made : Settings.ofAttributes field.attributes = .ok settings)
      (skip : settings.skip = true)
  | unnamed {settings : Settings} {inner : FieldType} {kind : Kind}
      (made : Settings.ofAttributes field.attributes = .ok settings)
      (optional : field.type.IsOptionOf inner) (told : settings.kind.or inner.kind? = some kind)
      (unnamed : Unicode.isIdentifier (constantName (field.memberName settings)).toList = false)

variable {field other : FieldItem} {type : FieldType}

/-- Fields that differ in parentheses and groups alone are one field with two types. -/
theorem exists_type_of_withoutWrappers (same : field.withoutWrappers = other.withoutWrappers) :
    ∃ type, other = field.withType type ∧
      field.type.withoutWrappers = type.withoutWrappers := by
  obtain ⟨name, type, visibility, attributes⟩ := field
  obtain ⟨name', type', visibility', attributes'⟩ := other
  obtain ⟨rfl, types, rfl, rfl⟩ := FieldItem.mk.inj same
  exact ⟨type', rfl, types⟩

end FieldItem

namespace Derivation

open FieldType (map_optionInner?_congr)

variable {field other : FieldItem} {type : FieldType} {d : Derivation} {e : DeriveError}

section Alike

variable (inner : field.type.optionInner?.map FieldType.withoutWrappers =
  type.optionInner?.map FieldType.withoutWrappers)
  (same : field.type.withoutWrappers = type.withoutWrappers)
include inner

theorem isSome_optionInner?_congr :
    field.type.optionInner?.isSome = type.optionInner?.isSome := by
  rw [← Option.isSome_map, inner, Option.isSome_map]

include same

theorem memberType_congr :
    field.memberType.withoutWrappers =
      (field.withType type).memberType.withoutWrappers := by
  change (field.type.optionInner?.getD field.type).withoutWrappers =
    (type.optionInner?.getD type).withoutWrappers
  rw [← Option.getD_map FieldType.withoutWrappers, ← Option.getD_map FieldType.withoutWrappers,
    inner, same]

theorem kind?_memberType_congr :
    field.memberType.kind? = (field.withType type).memberType.kind? := by
  rw [← FieldType.kind?_withoutWrappers, memberType_congr inner same,
    FieldType.kind?_withoutWrappers]

theorem ofKind_congr (settings : Settings) (kind : Kind) :
    (ofKind field settings kind).withoutWrappers =
      (ofKind (field.withType type) settings kind).withoutWrappers := by
  have types := memberType_congr inner same
  have present := isSome_optionInner?_congr inner
  simp only [withoutWrappers, ofKind, FieldItem.memberName, FieldItem.withType, present,
    List.map_cons, List.map_nil]
  split
  · rw [Option.map_some, Option.map_some, types]
    rfl
  · rfl

/-- Nothing tells a field of one type from the same field of the other. -/
theorem ofField_congr :
    withoutWrappers <$> ofField field = withoutWrappers <$> ofField (field.withType type) := by
  have kinds := kind?_memberType_congr inner same
  rcases adds_or_hasFault field with ⟨d, adds⟩ | ⟨e, fault⟩
  · rw [ofField_of_adds adds]
    cases adds with
    | skipped made skip =>
      have other : (field.withType type).Adds .empty := .skipped made skip
      rw [ofField_of_adds other]
    | @member settings kind made kept told named =>
      have other : (field.withType type).Adds (ofKind (field.withType type) settings kind) :=
        .member made kept (kinds ▸ told) named
      rw [ofField_of_adds other]
      exact congrArg Except.ok (ofKind_congr inner same settings kind)
  · have other : (field.withType type).HasFault e := by
      cases fault with
      | badAttribute refused => exact .badAttribute refused
      | noKind made kept implicit member untold =>
        obtain ⟨settings, made, kept, untold⟩ := FieldItem.hasFault_noKind_iff.mp
          (.noKind made kept implicit member untold)
        exact FieldItem.hasFault_noKind_iff.mpr ⟨settings, made, kept, kinds ▸ untold⟩
      | invalidConstant made kept told unnamed =>
        exact .invalidConstant made kept (kinds ▸ told) unnamed
    rw [ofField_of_hasFault fault, ofField_of_hasFault other]

end Alike

/-! ### A field that hides an option -/

/-- Members that are derived alike may both be absent or neither. -/
theorem isSome_optionInner?_of_ofKind {settings : Settings} {kind kind' : Kind}
    (same : (ofKind field settings kind).withoutWrappers =
      (ofKind other settings kind').withoutWrappers) :
    field.type.optionInner?.isSome = other.type.optionInner?.isSome :=
  List.head_eq_of_cons_eq (congrArg (fun d => d.table.map TableEntry.isNullable) same)

section Hidden

variable {settings : Settings} {inner : FieldType}
  (made : Settings.ofAttributes field.attributes = .ok settings) (kept : settings.skip = false)
include made kept

/-- A field that hides an option adds a member that is never absent. -/
theorem ofField_of_hidesOption (hides : field.type.HidesOption) : ofField field =
    if Unicode.isIdentifier (constantName (field.memberName settings)).toList then
      .ok (ofKind field settings (settings.kind.getD .text))
    else .error (.invalidConstant (constantName (field.memberName settings))) := by
  have own : field.memberType = field.type := by
    rw [FieldItem.memberType, FieldType.optionInner?_of_isWrapped hides.wrapped, Option.getD_none]
  have told : settings.kind.or field.memberType.kind? = some (settings.kind.getD .text) := by
    rw [own, hides.kind?]
    cases settings.kind <;> rfl
  split
  next named => exact ofField_of_adds (.member made kept told named)
  next unnamed => exact ofField_of_hasFault (.invalidConstant made kept told (by simpa using unnamed))

theorem ignoresOption_iff (optional : field.type.IsOptionOf inner) : field.IgnoresOption ↔
    (settings.kind.or inner.kind?).isSome = true ∧
      Unicode.isIdentifier (constantName (field.memberName settings)).toList = false := by
  constructor
  · rintro (refused | ⟨made', skip⟩ | ⟨made', optional', told, unnamed⟩)
    · cases made.symm.trans refused
    · obtain rfl := Except.ok.inj (made.symm.trans made')
      cases kept.symm.trans skip
    · obtain rfl := Except.ok.inj (made.symm.trans made')
      obtain rfl := Option.some.inj ((FieldType.optionInner?_eq_some_iff.mpr optional).symm.trans
        (FieldType.optionInner?_eq_some_iff.mpr optional'))
      exact ⟨Option.isSome_of_eq_some told, unnamed⟩
  · rintro ⟨known, unnamed⟩
    obtain ⟨kind, told⟩ := Option.isSome_iff_exists.mp known
    exact .unnamed made optional told unnamed

/-- A field that hides an option is derived like one of a type that is seen to be optional only if
both are refused, for the name of the constant. -/
theorem ofField_eq_iff_of_optional (hides : field.type.HidesOption)
    (found : type.optionInner? = some inner) :
    withoutWrappers <$> ofField field = withoutWrappers <$> ofField (field.withType type) ↔
      (settings.kind.or inner.kind?).isSome = true ∧
        Unicode.isIdentifier (constantName (field.memberName settings)).toList = false := by
  have member : (field.withType type).memberType = inner := by
    rw [FieldItem.memberType, FieldItem.withType, found, Option.getD_some]
  rw [ofField_of_hidesOption made kept hides]
  cases told : settings.kind.or inner.kind? with
  | none =>
    -- The kind inside the option is missing; around it, the type counts as opaque.
    have other : (field.withType type).HasFault .noKind :=
      FieldItem.hasFault_noKind_iff.mpr ⟨settings, made, kept, member ▸ told⟩
    rw [ofField_of_hasFault other]
    refine iff_of_false ?_ (by simp)
    split <;> nofun
  | some kind =>
    cases named : Unicode.isIdentifier (constantName (field.memberName settings)).toList with
    | true =>
      -- Only the member that is seen to be optional may be absent.
      have other : (field.withType type).Adds (ofKind (field.withType type) settings kind) :=
        .member made kept (member ▸ told) named
      rw [ofField_of_adds other, if_pos rfl]
      refine iff_of_false (fun alike => ?_) (by simp)
      have absent := isSome_optionInner?_of_ofKind (Except.ok.inj alike)
      rw [FieldType.optionInner?_of_isWrapped hides.wrapped, FieldItem.withType, found] at absent
      cases absent
    | false =>
      have other : (field.withType type).HasFault
          (.invalidConstant (constantName (field.memberName settings))) :=
        .invalidConstant made kept (member ▸ told) named
      rw [ofField_of_hasFault other]
      exact iff_of_true rfl ⟨rfl, rfl⟩

end Hidden

/-- Where one of two types hides an option and the other does not, what is derived differs, unless the
field ignores options. -/
theorem ofField_eq_iff_of_hidesOption (same : field.type.withoutWrappers = type.withoutWrappers)
    (hides : field.type.HidesOption) (shown : ¬ type.HidesOption) :
    withoutWrappers <$> ofField field = withoutWrappers <$> ofField (field.withType type) ↔
      field.withoutWrappers.IgnoresOption := by
  cases made : Settings.ofAttributes field.attributes with
  | error e =>
    have other : (field.withType type).HasFault (.badAttribute e) := .badAttribute made
    rw [ofField_of_hasFault (.badAttribute made), ofField_of_hasFault other]
    exact iff_of_true rfl (.refused made)
  | ok settings =>
    cases skip : settings.skip with
    | true =>
      have other : (field.withType type).Adds .empty := .skipped made skip
      rw [ofField_of_adds (.skipped made skip), ofField_of_adds other]
      exact iff_of_true rfl (.skipped made skip)
    | false =>
      obtain ⟨bare, optional⟩ := hides.optional
      obtain ⟨inner, found, rfl⟩ : ∃ inner, type.optionInner? = some inner ∧
          inner.withoutWrappers = bare := by
        rw [same] at optional
        exact Option.map_eq_some_iff.mp ((FieldType.map_optionInner? shown).trans
          (FieldType.optionInner?_eq_some_iff.mpr optional))
      have ignores : field.withoutWrappers.IgnoresOption ↔ _ :=
        ignoresOption_iff made skip optional
      rw [ignores, FieldType.kind?_withoutWrappers]
      exact ofField_eq_iff_of_optional made skip hides found

/-! ### Lists of fields -/

theorem withoutWrappers_append (first second : Derivation) :
    (first ++ second).withoutWrappers = first.withoutWrappers ++ second.withoutWrappers := by
  change withoutWrappers (append first second) = append _ _
  simp [withoutWrappers, append]

theorem map_ofFields_cons (field : FieldItem) (rest : List FieldItem) :
    withoutWrappers <$> ofFields (field :: rest) = do
      let first ← withoutWrappers <$> ofField field
      let others ← withoutWrappers <$> ofFields rest
      return first ++ others := by
  rw [ofFields]
  cases ofField field with
  | error e => rfl
  | ok first =>
    cases ofFields rest with
    | error e => rfl
    | ok others => exact congrArg Except.ok (withoutWrappers_append first others)

end Derivation

/-- Whether two fields differ in parentheses and groups alone, and not by an option that these hide in
one of them from where it matters. -/
structure FieldItem.Resembles (field other : FieldItem) : Prop where
  same : field.withoutWrappers = other.withoutWrappers
  options : (field.type.HidesOption ↔ other.type.HidesOption) ∨ field.withoutWrappers.IgnoresOption

namespace Derivation

variable {field other : FieldItem} {fields others : List FieldItem}

theorem ofField_eq_iff (same : field.withoutWrappers = other.withoutWrappers) :
    withoutWrappers <$> ofField field = withoutWrappers <$> ofField other ↔
      field.Resembles other := by
  have resembles : field.Resembles other ↔
      (field.type.HidesOption ↔ other.type.HidesOption) ∨ field.withoutWrappers.IgnoresOption :=
    ⟨FieldItem.Resembles.options, .mk same⟩
  rw [resembles]
  obtain ⟨type, rfl, types⟩ := FieldItem.exists_type_of_withoutWrappers same
  -- Only one of two types that are not alike hides an option, and it does not matter which.
  by_cases alike : field.type.HidesOption ↔ (field.withType type).type.HidesOption
  · exact iff_of_true (ofField_congr (FieldType.map_optionInner?_congr types alike) types)
      (Or.inl alike)
  · rw [or_iff_right alike]
    by_cases hides : field.type.HidesOption
    · have shown : ¬ type.HidesOption := fun hides' => alike (iff_of_true hides hides')
      exact ofField_eq_iff_of_hidesOption types hides shown
    · have hides' : type.HidesOption := by_contra fun shown => alike (iff_of_false hides shown)
      have reversed : _ ↔ (field.withType type).withoutWrappers.IgnoresOption :=
        ofField_eq_iff_of_hidesOption types.symm hides' hides
      rw [same, eq_comm]
      exact reversed

theorem ofFields_congr (resemble : List.Forall₂ FieldItem.Resembles fields others) :
    withoutWrappers <$> ofFields fields = withoutWrappers <$> ofFields others := by
  induction resemble with
  | nil => rfl
  | cons first _ ih =>
    rw [map_ofFields_cons, map_ofFields_cons, ih, (ofField_eq_iff first.same).mpr first]

end Derivation

/-- **Parentheses and groups.** Fields that differ in parentheses and groups alone, around their types
or within, come to the same member or the same fault exactly if these hide an optional type in both,
in neither, or in one to which it does not matter. A struct of such fields yields the same with either
spelling of each. -/
theorem derive_wrappers (name parameters : String) :
    (∀ field other : FieldItem, field.withoutWrappers = other.withoutWrappers →
      (Derivation.withoutWrappers <$> Derivation.ofField field =
          Derivation.withoutWrappers <$> Derivation.ofField other ↔
        (field.type.HidesOption ↔ other.type.HidesOption) ∨
          field.withoutWrappers.IgnoresOption)) ∧
      ∀ fields others, List.Forall₂ FieldItem.Resembles fields others →
        Derivation.withoutWrappers <$> derive ⟨name, parameters, .fields fields⟩ =
          Derivation.withoutWrappers <$> derive ⟨name, parameters, .fields others⟩ := by
  refine ⟨fun field other same => ?_, fun fields others resemble => ?_⟩
  · exact (Derivation.ofField_eq_iff same).trans ⟨FieldItem.Resembles.options, .mk same⟩
  · simp only [derive_struct]
    split
    · exact Derivation.ofFields_congr resemble
    · rfl

/-- The optional type of a text. -/
def optionalText : FieldType := .applied ["Option"] (.type (.named ["String"]) .nil)

/-- A text that may be absent, a borrowed one, and a skipped one, the way that they are usually
written. -/
def bareFields : List FieldItem :=
  [⟨"isbn", optionalText, .everywhere, []⟩,
    ⟨"title", .reference none (.named ["str"]), .everywhere, []⟩,
    ⟨"draft", optionalText, .everywhere, [⟨["search"], .entries [.flag ["skip"]]⟩]⟩]

/-- The same with parentheses and groups, of which the last hides an option that nobody looks for. -/
def wrappedFields : List FieldItem :=
  [⟨"isbn", .applied ["Option"] (.type (.parenthesized (.named ["String"])) .nil), .everywhere, []⟩,
    ⟨"title", .group (.reference none (.parenthesized (.named ["str"]))), .everywhere, []⟩,
    ⟨"draft", .parenthesized optionalText, .everywhere,
      [⟨["search"], .entries [.flag ["skip"]]⟩]⟩]

set_option maxRecDepth 8192 in
theorem derive_wrappers_book :
    Derivation.withoutWrappers <$> derive ⟨"Book", "", .fields wrappedFields⟩ =
        Derivation.withoutWrappers <$> derive ⟨"Book", "", .fields bareFields⟩ ∧
      (fun d => d.table.map fun entry => (entry.name, entry.kind, entry.isNullable)) <$>
          derive ⟨"Book", "", .fields wrappedFields⟩ =
        .ok [("isbn", .string, true), ("title", .string, false)] := by
  have plain : Trivia.isTrivia "" = true := by decide +kernel
  have resemble : List.Forall₂ FieldItem.Resembles wrappedFields bareFields :=
    .cons ⟨rfl, Or.inl (by decide)⟩ (.cons ⟨rfl, Or.inl (by decide)⟩
      (.cons ⟨rfl, Or.inr (.skipped rfl rfl)⟩ .nil))
  refine ⟨(derive_wrappers "Book" "").2 _ _ resemble, ?_⟩
  rw [derive_of_fields plain rfl]
  rfl

set_option maxRecDepth 8192 in
/-- A group around the optional type of a text leaves an opaque member that is never absent. -/
theorem derive_groupedOption :
    (FieldType.group optionalText).withoutWrappers = optionalText.withoutWrappers ∧
      (fun d => d.table.map fun entry => (entry.name, entry.kind, entry.isNullable)) <$>
          derive ⟨"Book", "", .fields [⟨"isbn", optionalText, .everywhere, []⟩]⟩ =
        .ok [("isbn", .string, true)] ∧
      (fun d => d.table.map fun entry => (entry.name, entry.kind, entry.isNullable)) <$>
          derive ⟨"Book", "", .fields [⟨"isbn", .group optionalText, .everywhere, []⟩]⟩ =
        .ok [("isbn", .text, false)] := by
  have plain : Trivia.isTrivia "" = true := by decide +kernel
  refine ⟨rfl, ?_, ?_⟩
  · rw [derive_of_fields plain rfl]
    rfl
  · rw [derive_of_fields plain rfl]
    rfl

end RecordSearch.Derive
