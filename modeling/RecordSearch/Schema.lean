import RecordSearch.Value

/-!
Member tables. A record type declares its searchable members in a table; a member that is itself a
record refers to the table of its type. Tables are referred to by number, so a type may contain
itself. A type can be searched if it has a declaration, and its records have answers.
-/
namespace RecordSearch

/-- The number of a member table among those of a schema. -/
abbrev TableId := Nat

inductive MemberType where
  | string
  | number
  | float
  | bool
  /-- A value that has a text but is searched only through it. -/
  | text
  | record (table : TableId)
  | collection
  deriving DecidableEq, Repr

namespace MemberType

def name : MemberType → String
  | string => "string"
  | number => "number"
  | float => "float"
  | bool => "bool"
  | text => "text"
  | record _ => "record"
  | collection => "collection"

def isString : MemberType → Bool
  | string => true
  | _ => false

def isCollection : MemberType → Bool
  | collection => true
  | _ => false

/-- The table of a nested record. -/
def table? : MemberType → Option TableId
  | record table => some table
  | _ => none

theorem isString_iff {ty : MemberType} : ty.isString = true ↔ ty = string := by
  cases ty <;> simp [isString]

end MemberType

structure Member where
  name : String
  ty : MemberType
  isPublic : Bool
  isWritable : Bool
  isNullable : Bool
  deriving DecidableEq, Repr

namespace Member

/-- A public and writable member that is always present. -/
def ofType (name : String) (ty : MemberType) : Member := ⟨name, ty, true, true, false⟩

def readonly (m : Member) : Member := { m with isWritable := false }

def hidden (m : Member) : Member := { m with isPublic := false }

def nullable (m : Member) : Member := { m with isNullable := true }

/-- Whether a strict search looks at the member: it is public, writable and a string. -/
def isEligibleStrict (m : Member) : Bool := m.isPublic && m.isWritable && m.ty.isString

/-- Whether a search of all members looks at the member: it is public and no collection. -/
def isEligibleAll (m : Member) : Bool := m.isPublic && !m.ty.isCollection

/-- A member under inspection. -/
def inspect (m : Member) : String :=
  "Member \x7b name: " ++ Text.quoted m.name ++
    ", ty: " ++ m.ty.name ++ ", public: " ++ Text.ofBool m.isPublic ++ ", writable: " ++
    Text.ofBool m.isWritable ++ ", nullable: " ++ Text.ofBool m.isNullable ++ " \x7d"

end Member

def findMember? (members : List Member) (name : String) : Option Member :=
  members.find? fun m => m.name == name

theorem findMember?_some {members : List Member} {name : String} {m : Member}
    (h : findMember? members name = some m) : m ∈ members ∧ m.name = name :=
  ⟨List.mem_of_find?_eq_some h, by simpa using List.find?_some h⟩

/-- The declaration of a record type: its name, its own table, and every table it can reach. -/
structure Schema where
  typeName : String
  root : TableId
  members : TableId → List Member

/-- The table of the record type itself. -/
def Schema.rootMembers (schema : Schema) : List Member := schema.members schema.root

/-- A record type: its declaration, and what a record answers. The answers need not agree with the
declaration. -/
class Searchable (α : Type) where
  schema : Schema
  record : α → Record

end RecordSearch
