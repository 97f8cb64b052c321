import RecordSearch.Derive.Derivation
import RecordSearch.Proofs.Derive.Settings

/-!
# The table and the accessor of a derivation

A field that is not skipped adds an entry to the member table and, unless it is a collection, a case
to the accessor. The two are made from the field separately; here it is said what each has to be,
and shown that they are so for every list of fields.

## Main result

`agrees_of_ofFields`: what a list of fields adds has one entry for each searched field, and one case
for each entry that is no collection, both in the order of the fields.
-/
namespace RecordSearch.Derive

/-! ### Types -/

namespace FieldType

/-- Whether a type is written as an optional one, with the other type inside. -/
inductive IsOptionOf : FieldType → FieldType → Prop
  | intro {path : List String} (named : path.getLast? = some "Option") (inner : FieldType)
      (rest : TypeArguments) : IsOptionOf (.applied path (.type inner rest)) inner

/-- Whether a field of a type has a member of the other type: of the type inside an optional type,
and else of the field's own. -/
inductive HasMember : FieldType → FieldType → Prop
  | optional {type inner : FieldType} (optional : type.IsOptionOf inner) : HasMember type inner
  | plain {type : FieldType} (plain : ∀ inner, ¬ type.IsOptionOf inner) : HasMember type type

variable {type inner : FieldType}

theorem optionInner?_eq_some_iff : type.optionInner? = some inner ↔ type.IsOptionOf inner := by
  constructor
  · intro found
    fun_cases optionInner? type with
    | case1 path inside rest named =>
      obtain rfl : inside = inner := by simpa [optionInner?, named] using found
      exact .intro named inside rest
    | case2 path inside rest named => simp [optionInner?, named] at found
    | case3 => simp_all [optionInner?]
  · rintro ⟨named, rest⟩
    simp [optionInner?, named]

theorem isSome_optionInner?_iff :
    type.optionInner?.isSome = true ↔ ∃ inner, type.IsOptionOf inner := by
  simp only [Option.isSome_iff_exists, optionInner?_eq_some_iff]

theorem hasMember_optionInner? : type.HasMember (type.optionInner?.getD type) := by
  cases inside : type.optionInner? with
  | some inner => exact .optional (optionInner?_eq_some_iff.mp inside)
  | none =>
    refine .plain fun inner optional => ?_
    rw [optionInner?_eq_some_iff.mpr optional] at inside
    cases inside

end FieldType

/-- Whether members of a kind answer values of a kind. A number is one of either kind, and a
collection answers nothing. -/
inductive Kind.Answers : Kind → ValueKind → Prop
  | string : Answers .string .string
  | number : Answers .number .number
  | float : Answers .float .number
  | bool : Answers .bool .bool
  | text : Answers .text .text
  | record : Answers .record .record

theorem Kind.value?_eq_some_iff {kind : Kind} {value : ValueKind} :
    kind.value? = some value ↔ kind.Answers value := by
  constructor
  · intro answered
    cases kind <;> cases answered <;> constructor
  · rintro ⟨⟩ <;> rfl

/-! ### Fields -/

/-- Whether a field asks to be left out. -/
def FieldItem.isSkipped (field : FieldItem) : Bool := (Settings.told field.entries).skip

/-- The fields that have a member. -/
def searched (fields : List FieldItem) : List FieldItem :=
  fields.filter fun field => !field.isSkipped

/-- Whether an entry is the one that a field has to have. -/
structure TableEntry.IsOf (entry : TableEntry) (field : FieldItem) : Prop where
  name : entry.name = (Settings.told field.entries).rename.getD (Derivation.plainName field.name)
  kind : ∃ type, field.type.HasMember type ∧
    (Settings.told field.entries).kind.or type.kind? = some entry.kind ∧
      entry.nested = if entry.kind = .record then some type else none
  isReadonly : entry.isReadonly = true ↔ .flag ["readonly"] ∈ field.entries
  isPrivate : entry.isPrivate = true ↔ field.visibility ≠ .everywhere
  isNullable : entry.isNullable = true ↔ ∃ inner, field.type.IsOptionOf inner

/-- Whether a case of the accessor is the one that a field with an entry has to have. -/
structure Arm.Reads (arm : Arm) (field : FieldItem) (entry : TableEntry) : Prop where
  name : arm.name = entry.name
  field : arm.field = field.name
  isNullable : arm.isNullable = entry.isNullable
  value : entry.kind.Answers arm.value

/-- The fields with their entries that the accessor has a case for. -/
def answered (fields : List FieldItem) (table : List TableEntry) : List (FieldItem × TableEntry) :=
  ((searched fields).zip table).filter fun read => read.2.kind ≠ .collection

/-- Whether what is derived is what a list of fields has to have. -/
structure Derivation.Agrees (d : Derivation) (fields : List FieldItem) : Prop where
  table : List.Forall₂ (fun field entry => entry.IsOf field) (searched fields) d.table
  arms : List.Forall₂ (fun read arm => arm.Reads read.1 read.2) (answered fields d.table) d.arms

theorem searched_append (first second : List FieldItem) :
    searched (first ++ second) = searched first ++ searched second :=
  List.filter_append first second

namespace Derivation

variable {d : Derivation} {field : FieldItem} {fields : List FieldItem}

theorem Agrees.empty_of_isSkipped (skipped : field.isSkipped = true) : empty.Agrees [field] := by
  have none : searched [field] = [] := by simp [searched, skipped]
  constructor
  · rw [none]
    exact .nil
  · rw [answered, none]
    exact .nil

theorem Agrees.append {first second : Derivation} {before behind : List FieldItem}
    (one : first.Agrees before) (other : second.Agrees behind) :
    (first ++ second).Agrees (before ++ behind) := by
  -- Each field of the first list has its entry, so no entry slides to a field of the second one.
  have split : answered (before ++ behind) (first.table ++ second.table) =
      answered before first.table ++ answered behind second.table := by
    rw [answered, searched_append, List.zip_append one.table.length_eq, List.filter_append]
    rfl
  constructor
  · rw [searched_append]
    exact List.rel_append one.table other.table
  · change List.Forall₂ _ (answered _ (first.table ++ second.table)) (first.arms ++ second.arms)
    rw [split]
    exact List.rel_append one.arms other.arms

/-- An entry and the case that its kind asks for are what a single field has to have. -/
theorem Agrees.of_entry (kept : field.isSkipped = false) {entry : TableEntry}
    (isOf : entry.IsOf field) (constants : List (String × String)) :
    Agrees ⟨constants, [entry], entry.kind.value?.toList.map fun value =>
      ⟨entry.name, field.name, entry.isNullable, value⟩⟩ [field] := by
  have single : searched [field] = [field] := by simp [searched, kept]
  constructor
  · rw [single]
    exact .cons isOf .nil
  · change List.Forall₂ _ (answered [field] [entry]) (entry.kind.value?.toList.map _)
    cases answers : entry.kind.value? with
    | none =>
      have collection : entry.kind = .collection := Kind.value?_eq_none_iff.mp answers
      have unanswered : answered [field] [entry] = [] := by simp [answered, single, collection]
      rw [unanswered]
      exact .nil
    | some value =>
      have shown : entry.kind ≠ .collection := by
        rintro collection
        rw [Kind.value?_eq_none_iff.mpr collection] at answers
        cases answers
      have one : answered [field] [entry] = [(field, entry)] := by simp [answered, single, shown]
      rw [one]
      exact .cons ⟨rfl, rfl, rfl, Kind.value?_eq_some_iff.mp answers⟩ .nil

theorem or_eq_some_of_memberKind {settings : Settings} {type : FieldType} {kind : Kind}
    (told : memberKind settings type = .ok kind) : settings.kind.or type.kind? = some kind := by
  rw [memberKind] at told
  cases explicit : settings.kind with
  | some named =>
    rw [explicit] at told
    exact congrArg some (Except.ok.inj told)
  | none =>
    rw [explicit] at told
    cases inferred : type.kind? with
    | some shown =>
      rw [inferred] at told
      exact congrArg some (Except.ok.inj told)
    | none =>
      rw [inferred] at told
      cases told

theorem agrees_of_ofMember (kept : field.isSkipped = false)
    (made : ofMember field (Settings.told field.entries) = .ok d) : d.Agrees [field] := by
  obtain ⟨kind, told, made⟩ := bind_eq_ok_iff.mp made
  obtain ⟨constant, -, whole⟩ := bind_eq_ok_iff.mp made
  cases whole
  refine Agrees.of_entry kept ⟨rfl, ?_, ?_, ?_, ?_⟩ _
  · exact ⟨_, FieldType.hasMember_optionInner?, or_eq_some_of_memberKind told, rfl⟩
  · simp [Settings.told]
  · simp
  · exact FieldType.isSome_optionInner?_iff

theorem agrees_of_ofField (made : ofField field = .ok d) : d.Agrees [field] := by
  obtain ⟨settings, parsed, taken⟩ := bind_eq_ok_iff.mp made
  obtain rfl := Settings.eq_told_of_ofAttributes (mapError_eq_ok_iff.mp parsed)
  split at taken
  next skipped =>
    cases taken
    exact .empty_of_isSkipped skipped
  next kept => exact agrees_of_ofMember (Bool.eq_false_iff.mpr kept) taken

theorem agrees_of_ofFields (made : ofFields fields = .ok d) : d.Agrees fields := by
  induction fields generalizing d with
  | nil =>
    cases made
    exact ⟨.nil, .nil⟩
  | cons field rest ih =>
    obtain ⟨first, one, taken⟩ := bind_eq_ok_iff.mp made
    obtain ⟨others, behind, whole⟩ := bind_eq_ok_iff.mp taken
    cases whole
    exact (agrees_of_ofField one).append (ih behind)

end Derivation

end RecordSearch.Derive
