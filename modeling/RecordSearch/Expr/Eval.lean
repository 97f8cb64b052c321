import RecordSearch.Expr.Basic
import RecordSearch.Value

/-!
Evaluation of expressions on a record. Nothing fails: a step that makes no sense gives an absent
value, and what is absent neither has a text nor is true.
-/
namespace RecordSearch

/-- What an expression evaluates to. The record itself is an operand but no value. -/
inductive Operand where
  | root
  | value (v : Value)
  | text (s : String)
  | truth (b : Bool)

namespace Operand

def absent : Operand := value .absent

def isAbsent : Operand → Bool
  | value v => v.isAbsent
  | _ => false

def isTrue : Operand → Bool
  | truth b => b
  | value (.bool b) => b
  | _ => false

/-- The text that can be searched: a text or a string, nothing else. -/
def searchable? : Operand → Option String
  | text s => some s
  | value (.string s) => some s
  | _ => none

/-- A member of the record or of a nested one. -/
def member (record : Record) (name : String) : Operand → Operand
  | root => value (record name)
  | value (.record _ field) => value (field name)
  | _ => absent

/-- Turn into text whatever has one. The record itself has none. -/
def toText : Operand → Operand
  | root => absent
  | value v =>
    match v.toText? with
    | some s => text s
    | none => absent
  | text s => text s
  | truth b => text (Text.ofBool b)

def upper (operand : Operand) : Operand :=
  match operand.searchable? with
  | some s => text (Text.upper s)
  | none => absent

def contains (operand : Operand) (needle : String) : Bool :=
  match operand.searchable? with
  | some s => Text.contains s needle
  | none => false

end Operand

namespace Expr

/-- The operand of an expression when `placeholder` stands for `record`. Any other placeholder is
absent. -/
def eval (placeholder : String) (record : Record) : Expr → Operand
  | param name => if name = placeholder then .root else .absent
  | member target name => (target.eval placeholder record).member record name
  | toText inner => (inner.eval placeholder record).toText
  | upper inner => (inner.eval placeholder record).upper
  | isPresent inner => .truth !(inner.eval placeholder record).isAbsent
  | contains haystack needle => .truth ((haystack.eval placeholder record).contains needle)
  | and left right =>
    .truth ((left.eval placeholder record).isTrue && (right.eval placeholder record).isTrue)
  | or left right =>
    .truth ((left.eval placeholder record).isTrue || (right.eval placeholder record).isTrue)

def test (e : Expr) (placeholder : String) (record : Record) : Bool :=
  (e.eval placeholder record).isTrue

@[simp]
theorem test_and (left right : Expr) (placeholder : String) (record : Record) :
    (and left right).test placeholder record =
      (left.test placeholder record && right.test placeholder record) :=
  rfl

@[simp]
theorem test_or (left right : Expr) (placeholder : String) (record : Record) :
    (or left right).test placeholder record =
      (left.test placeholder record || right.test placeholder record) :=
  rfl

end Expr

end RecordSearch
