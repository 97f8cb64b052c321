/-!
What a derived member holds, as attributes name it. A member's kind decides the kind of value that
its accessor answers.
-/
namespace RecordSearch.Derive

inductive Kind where
  | string
  | number
  | float
  | bool
  | text
  | record
  | collection
  deriving DecidableEq, Repr

namespace Kind

def name : Kind → String
  | string => "String"
  | number => "Number"
  | float => "Float"
  | bool => "Bool"
  | text => "Text"
  | record => "Record"
  | collection => "Collection"

def ofName? : String → Option Kind
  | "String" | "string" => some string
  | "Number" | "number" => some number
  | "Float" | "float" => some float
  | "Bool" | "bool" | "boolean" => some bool
  | "Text" | "text" | "display" => some text
  | "Record" | "record" | "nested" => some record
  | "Collection" | "collection" => some collection
  | _ => none

theorem ofName?_name (kind : Kind) : ofName? kind.name = some kind := by cases kind <;> rfl

end Kind

/-- The kind of value that an accessor answers. -/
inductive ValueKind where
  | string
  | number
  | bool
  | text
  | record
  deriving DecidableEq, Repr

def ValueKind.name : ValueKind → String
  | string => "String"
  | number => "Number"
  | bool => "Bool"
  | text => "Text"
  | record => "Record"

/-- The kind of value that a member of the given kind answers. A collection answers none. -/
def Kind.value? : Kind → Option ValueKind
  | string => some .string
  | number => some .number
  | float => some .number
  | bool => some .bool
  | text => some .text
  | record => some .record
  | collection => none

theorem Kind.value?_eq_none_iff {kind : Kind} : kind.value? = none ↔ kind = collection := by
  cases kind <;> simp [value?]

end RecordSearch.Derive
