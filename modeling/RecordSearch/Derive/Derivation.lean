import RecordSearch.Derive.Inference
import RecordSearch.Derive.Settings
import RecordSearch.Derive.Trivia
import RecordSearch.Unicode.Identifier
import RecordSearch.Unicode.Letter

/-!
The member table and the accessor of a described struct. Each field that is not skipped adds a
constant, an entry of the table and, unless it is a collection, a case of the accessor. The constants
hold the names of the members; their own names are in upper case, with an underscore where words meet.
-/
namespace RecordSearch.Derive

/-! ### Constants -/

/-- The characters of a constant's name. `afterLower` tells whether the character before was a
letter or digit but no capital; a capital there begins a new word. Beyond ASCII the case of a
letter stays as it is. -/
def constantCharacters : Bool → List Char → List Char
  | _, [] => []
  | afterLower, c :: rest =>
    if Unicode.isUppercase c then
      let word := c :: constantCharacters false rest
      if afterLower then '_' :: word else word
    else if c = '_' ∨ c = '-' ∨ c = ' ' then '_' :: constantCharacters false rest
    else c.toUpper :: constantCharacters (Unicode.isAlphanumeric c) rest

/-- The name of the constant for a member. It need not be an identifier. -/
def constantName (member : String) : String :=
  String.ofList (constantCharacters false member.toList)

/-! ### Tables and accessors -/

/-- An entry of the derived table. A record refers to the table of the type it is written with. -/
structure TableEntry where
  name : String
  kind : Kind
  nested : Option FieldType
  isReadonly : Bool
  isPrivate : Bool
  isNullable : Bool
  deriving Repr

/-- The modifiers of an entry, in the order in which they are applied. -/
def TableEntry.modifiers (entry : TableEntry) : List String :=
  (if entry.isReadonly then ["readonly"] else []) ++
    (if entry.isPrivate then ["private"] else []) ++
    (if entry.isNullable then ["nullable"] else [])

/-- A case of the accessor: the member asked for, the field read, whether the field is unwrapped
first, and what is answered. -/
structure Arm where
  name : String
  field : String
  isNullable : Bool
  value : ValueKind
  deriving DecidableEq, Repr

/-- What is derived: constants with the member names they hold, the table, and the accessor. -/
structure Derivation where
  constants : List (String × String)
  table : List TableEntry
  arms : List Arm
  deriving Repr

namespace Derivation

def empty : Derivation := ⟨[], [], []⟩

/-- What one list of fields adds behind another. -/
def append (first second : Derivation) : Derivation :=
  ⟨first.constants ++ second.constants, first.table ++ second.table, first.arms ++ second.arms⟩

instance : Append Derivation := ⟨append⟩

@[simp]
theorem empty_append (d : Derivation) : empty ++ d = d := rfl

@[simp]
theorem append_empty (d : Derivation) : d ++ empty = d := by
  change append d empty = d
  simp [append, empty]

theorem append_assoc (a b c : Derivation) : a ++ b ++ c = a ++ (b ++ c) := by
  change append (append a b) c = append a (append b c)
  simp [append]

/-- A name without the mark of a raw identifier. -/
def plainName (name : String) : String :=
  match name.toList with
  | 'r' :: '#' :: rest => String.ofList rest
  | _ => name

/-- The kind of a field's member: the one asked for, or else the one that the type tells. -/
def memberKind (settings : Settings) (type : FieldType) : Except DeriveError Kind :=
  match settings.kind with
  | some kind => .ok kind
  | none =>
    match type.kind? with
    | some kind => .ok kind
    | none => .error .noKind

/-- The name of the constant for a member, which has to be an identifier. -/
def checkedConstant (member : String) : Except DeriveError String :=
  if Unicode.isIdentifier (constantName member).toList then .ok (constantName member)
  else .error (.invalidConstant (constantName member))

def ofMember (field : FieldItem) (settings : Settings) : Except DeriveError Derivation := do
  -- An optional field is one of the type inside, and may be absent.
  let inner := field.type.optionInner?
  let type := inner.getD field.type
  let kind ← memberKind settings type
  let name := settings.rename.getD (plainName field.name)
  let constant ← checkedConstant name
  let entry : TableEntry :=
    ⟨name, kind, if kind = .record then some type else none, settings.readonly,
      decide (field.visibility ≠ .everywhere), inner.isSome⟩
  let arms := kind.value?.toList.map fun value => (⟨name, field.name, inner.isSome, value⟩ : Arm)
  return ⟨[(constant, name)], [entry], arms⟩

/-- What a field adds. A skipped field adds nothing, whatever else is said about it. -/
def ofField (field : FieldItem) : Except DeriveError Derivation := do
  let settings ← (Settings.ofAttributes field.attributes).mapError .badAttribute
  -- Neither the type nor the name of a skipped field is looked at.
  if settings.skip then return empty else ofMember field settings

/-- What a list of fields adds. The first field at fault decides the error. -/
def ofFields : List FieldItem → Except DeriveError Derivation
  | [] => .ok empty
  | field :: rest => do
    let first ← ofField field
    let others ← ofFields rest
    return first ++ others

/-- Two lists of fields in a row add what each adds alone. -/
theorem ofFields_append (first second : List FieldItem) :
    ofFields (first ++ second) = do
      let before ← ofFields first
      let behind ← ofFields second
      return before ++ behind := by
  induction first with
  | nil => cases h : ofFields second <;> simp [ofFields, h, bind, Except.bind, pure, Except.pure]
  | cons field rest ih =>
    simp only [List.cons_append, ofFields, ih]
    cases ofField field with
    | error e => rfl
    | ok one =>
      cases ofFields rest with
      | error e => rfl
      | ok others =>
        cases ofFields second with
        | error e => rfl
        | ok behind => simp [bind, Except.bind, pure, Except.pure, append_assoc]

end Derivation

def derive (item : Item) : Except DeriveError Derivation :=
  if Trivia.isTrivia item.parameters then
    match item.body with
    | .fields fields => Derivation.ofFields fields
    | .positional => .error .noNamedFields
    | .unit => .error .noNamedFields
    | .enumeration => .error .noStruct
    | .union => .error .noStruct
  else .error .hasParameters

end RecordSearch.Derive
