import RecordSearch.Derive.FieldType
import RecordSearch.Derive.Literal

/-!
Descriptions of the types that a member table can be derived for: a struct, its fields, and the
attributes in front of them. The attribute `search` is the one that the derivation reads; its
arguments are entries.
-/
namespace RecordSearch.Derive

/-- What an entry assigns: a text, or an expression as it is written. -/
inductive Assigned where
  | text (value : String)
  | expression (written : String)
  deriving DecidableEq, Repr

/-- The text assigned. An expression is one only if it is a string literal. -/
def Assigned.text? : Assigned → Option String
  | text value => some value
  | expression written => Literal.string? written

/-- Whether an attribute stands in front of what is assigned. A comment that documents something is
one. -/
def Assigned.hasAttribute : Assigned → Bool
  | text _ => false
  | expression written =>
    match Trivia.firstToken written.toList with
    | '#' :: rest => (Trivia.skip rest).head? == some '['
    | '/' :: _ => true
    | _ => false

inductive Entry where
  | flag (path : List String)
  | assign (path : List String) (value : Assigned)
  /-- A path with arguments of its own. -/
  | call (path : List String)
  deriving DecidableEq, Repr

def Entry.path : Entry → List String
  | flag path => path
  | assign path _ => path
  | call path => path

def Entry.hasAttribute : Entry → Bool
  | flag _ => false
  | assign _ value => value.hasAttribute
  | call _ => false

/-- What stands behind the path of an attribute. -/
inductive Arguments where
  | absent
  | assigned
  | entries (entries : List Entry)
  deriving DecidableEq, Repr

structure Attribute where
  path : List String
  arguments : Arguments
  deriving DecidableEq, Repr

def Attribute.isSearch (a : Attribute) : Bool := a.path == ["search"]

inductive Visibility where
  | everywhere
  | restricted
  | inherited
  deriving DecidableEq, Repr

/-- The visibility that a text in front of a field stands for. -/
def Visibility.ofText (text : String) : Visibility :=
  match Trivia.firstToken text.toList with
  | [] => inherited
  | 'p' :: 'u' :: 'b' :: rest => if (Trivia.skip rest).isEmpty then everywhere else restricted
  | _ => restricted

/-- A field. The name of a raw identifier begins with its mark `r#`. -/
structure FieldItem where
  name : String
  type : FieldType
  visibility : Visibility
  attributes : List Attribute
  deriving Repr

inductive Body where
  | fields (fields : List FieldItem)
  /-- A struct whose fields have no names. -/
  | positional
  /-- A struct without fields. -/
  | unit
  | enumeration
  | union
  deriving Repr

/-- A type to derive a member table for. Its parameters are the text between its angle brackets. -/
structure Item where
  name : String
  parameters : String
  body : Body
  deriving Repr

end RecordSearch.Derive
