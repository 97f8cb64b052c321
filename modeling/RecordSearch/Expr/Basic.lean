/-!
Expressions over a placeholder that stands for a record. They are built freely; whether one makes
sense for a record type is decided by `Expr.resolve`.
-/
namespace RecordSearch

inductive Expr where
  /-- A placeholder. -/
  | param (name : String)
  /-- A member of a record. -/
  | member (target : Expr) (name : String)
  | toText (inner : Expr)
  | upper (inner : Expr)
  | isPresent (inner : Expr)
  /-- Whether the text on the left holds the needle. -/
  | contains (haystack : Expr) (needle : String)
  | and (left right : Expr)
  | or (left right : Expr)
  deriving DecidableEq, Repr, Inhabited

namespace Expr

def path (start : Expr) (names : List String) : Expr := names.foldl member start

/-- Whether a placeholder occurs. -/
def mentions (name : String) : Expr → Bool
  | param other => other == name
  | member target _ => target.mentions name
  | toText inner => inner.mentions name
  | upper inner => inner.mentions name
  | isPresent inner => inner.mentions name
  | contains haystack _ => haystack.mentions name
  | and left right => left.mentions name || right.mentions name
  | or left right => left.mentions name || right.mentions name

/-- Put one placeholder in the place of another; all others stay. -/
def rename (old new : String) : Expr → Expr
  | param name => if name = old then param new else param name
  | member target name => member (target.rename old new) name
  | toText inner => toText (inner.rename old new)
  | upper inner => upper (inner.rename old new)
  | isPresent inner => isPresent (inner.rename old new)
  | contains haystack needle => contains (haystack.rename old new) needle
  | and left right => and (left.rename old new) (right.rename old new)
  | or left right => or (left.rename old new) (right.rename old new)

def needles : Expr → List String
  | param _ => []
  | member target _ => target.needles
  | toText inner => inner.needles
  | upper inner => inner.needles
  | isPresent inner => inner.needles
  | contains haystack needle => haystack.needles ++ [needle]
  | and left right => left.needles ++ right.needles
  | or left right => left.needles ++ right.needles

/-- Renaming a placeholder to itself changes nothing. -/
@[simp]
theorem rename_self (name : String) (e : Expr) : e.rename name name = e := by
  induction e with
  | param other =>
    unfold rename
    split
    next equal => rw [equal]
    · rfl
  | member _ _ ih => simp [rename, ih]
  | toText _ ih => simp [rename, ih]
  | upper _ ih => simp [rename, ih]
  | isPresent _ ih => simp [rename, ih]
  | contains _ _ ih => simp [rename, ih]
  | and _ _ left right => simp [rename, left, right]
  | or _ _ left right => simp [rename, left, right]

/-- Renaming touches no needle. -/
@[simp]
theorem needles_rename (old new : String) (e : Expr) : (e.rename old new).needles = e.needles := by
  induction e with
  | param name =>
    unfold rename
    split <;> rfl
  | member _ _ ih => simpa [rename, needles] using ih
  | toText _ ih => simpa [rename, needles] using ih
  | upper _ ih => simpa [rename, needles] using ih
  | isPresent _ ih => simpa [rename, needles] using ih
  | contains _ _ ih => simp [rename, needles, ih]
  | and _ _ left right => simp [rename, needles, left, right]
  | or _ _ left right => simp [rename, needles, left, right]

end Expr

end RecordSearch
