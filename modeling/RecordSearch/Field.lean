import RecordSearch.Expr.Text

/-!
Fields: expressions over a placeholder of their own, to be searched in place of the members that a
search would find by itself.
-/
namespace RecordSearch

/-- A lambda from a record to the text to be searched. -/
structure Field where
  param : String
  body : Expr
  deriving DecidableEq, Repr

namespace Field

/-- The placeholder of fields that do not choose one. -/
def defaultParam : String := "x"

/-- A field over the default placeholder. -/
def ofBody (body : Expr → Expr) : Field := ⟨defaultParam, body (.param defaultParam)⟩

def ofName (name : String) : Field := ofBody fun x => .member x name

/-- A member of a member, and so on. No name at all is the record itself. -/
def ofPath (names : List String) : Field := ofBody fun x => x.path names

def intoText (field : Field) : Field := { field with body := .toText field.body }

/-- The body over another placeholder. -/
def bind (field : Field) (param : String) : Expr := field.body.rename field.param param

def text (field : Field) : String := field.param ++ " => " ++ field.body.text

end Field

end RecordSearch
